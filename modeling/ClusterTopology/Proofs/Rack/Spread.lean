import ClusterTopology.Proofs.Rack.Choice
import ClusterTopology.Proofs.Rack.Zones

/-!
How many racks a pass uses for nodes that stand nowhere. An empty rack is taken before any other, so
the nodes spread over as many racks as there are. A rack is opened only for a zone that comes when no
rack is empty; since the zones come first, this happens once for each zone beyond the least number of
racks, and the racks in use are as many as there are nodes, up to the number of racks asked for or of
zones, whichever is greater.
-/

namespace ClusterTopology

def Event.opensRack : Event → Bool
  | .rackOpened .. => true
  | _ => false

def openedIn (events : List Event) : Nat := events.countP Event.opensRack

namespace Racks

def inUse (racks : Racks) : Finset Text :=
  racks.keys.toFinset.filter fun rack => racks.population rack ≠ 0

section

variable {racks other : Racks} {rack : Text}

theorem mem_inUse_iff : rack ∈ racks.inUse ↔ ∃ member, racks.Holds rack member := by
  simp only [inUse, Finset.mem_filter, List.mem_toFinset, Table.mem_keys_iff, Ne,
    population_eq_zero_iff, not_forall, not_not]
  exact ⟨fun both => both.2, fun held => ⟨contains_of_holds held.choose_spec, held⟩⟩

theorem inUse_eq_of_holds_iff
    (same : ∀ rack member, racks.Holds rack member ↔ other.Holds rack member) :
    racks.inUse = other.inUse := by
  ext rack
  simp only [mem_inUse_iff, same]

theorem inUse_addNode (racks : Racks) (rack node : Text) :
    (racks.addNode rack node).inUse = insert rack racks.inUse := by
  ext other
  simp only [mem_inUse_iff, holds_addNode_iff, Finset.mem_insert]
  grind

theorem inUse_subset (racks : Racks) : racks.inUse ⊆ racks.keys.toFinset :=
  Finset.filter_subset _ _

theorem card_keys (racks : Racks) : racks.keys.toFinset.card = racks.size := by
  rw [List.toFinset_card_of_nodup racks.keys_nodup, Table.size_eq_length_keys]

theorem exists_empty_of_card_lt (fewer : racks.inUse.card < racks.size) :
    ∃ rack, racks.contains rack = true ∧ rack ∉ racks.inUse := by
  rw [← card_keys] at fewer
  obtain ⟨rack, listed, unused⟩ := Finset.exists_mem_notMem_of_card_lt_card fewer
  exact ⟨rack, Table.mem_keys_iff.mp (List.mem_toFinset.mp listed), unused⟩

theorem mem_inUse_of_card_eq (full : racks.inUse.card = racks.size)
    (there : racks.contains rack = true) : rack ∈ racks.inUse := by
  rw [Finset.eq_of_subset_of_card_le racks.inUse_subset (by rw [card_keys, full])]
  exact List.mem_toFinset.mpr (Table.mem_keys_iff.mpr there)

theorem card_inUse_le (racks : Racks) : racks.inUse.card ≤ racks.size := by
  rw [← card_keys]
  exact Finset.card_le_card racks.inUse_subset

end

/-! Which rack a node gets, by what is left of the racks. -/

section

variable {racks : Racks} {minimum : Int} (positive : 1 ≤ minimum) (zones : Zones) (node : Node)

theorem inUse_withAtLeast (racks : Racks) (minimum : Int) :
    (racks.withAtLeast minimum).inUse = racks.inUse :=
  inUse_eq_of_holds_iff (holds_withAtLeast_iff minimum racks)

theorem card_inUse_le_ready (racks : Racks) (minimum : Int) :
    racks.inUse.card ≤ (racks.withAtLeast minimum).size := by
  rw [← inUse_withAtLeast racks minimum]
  exact card_inUse_le _

include positive

theorem place_of_card_lt (fewer : racks.inUse.card < (racks.withAtLeast minimum).size) :
    ∃ rack ∉ racks.inUse, racks.place minimum zones node = .done (racks.withAtLeast minimum) rack := by
  rw [← inUse_withAtLeast racks minimum] at fewer ⊢
  obtain ⟨spare, there, unused⟩ := exists_empty_of_card_lt fewer
  have nobody : ∀ member, ¬(racks.withAtLeast minimum).Holds spare member := by
    simpa [mem_inUse_iff] using unused
  have suits : (racks.withAtLeast minimum).Suits zones (targetZone zones node) spare :=
    ⟨there, Or.inr (Or.inl nobody)⟩
  rcases place_cases positive racks zones node with ⟨rack, placed, _, least⟩ | ⟨_, nothing, _⟩
  · refine ⟨rack, ?_, placed⟩
    have empty := Nat.le_zero.mp (population_eq_zero_iff.mpr nobody ▸ least spare suits)
    rw [mem_inUse_iff, not_exists]
    exact population_eq_zero_iff.mp empty
  · exact absurd suits (nothing spare)

theorem place_of_card_eq (full : racks.inUse.card = (racks.withAtLeast minimum).size)
    (known : targetZone zones node = [] ∨ ∃ rack, racks.HoldsZone zones rack (targetZone zones node)) :
    ∃ rack ∈ racks.inUse, racks.place minimum zones node = .done (racks.withAtLeast minimum) rack := by
  rw [← inUse_withAtLeast racks minimum] at full ⊢
  rcases place_cases positive racks zones node with ⟨rack, placed, suits, _⟩ | ⟨zoned, nothing, _⟩
  · exact ⟨rack, mem_inUse_of_card_eq full suits.1, placed⟩
  · obtain ⟨rack, member, inside, sameZone⟩ := known.resolve_left zoned
    rw [← holds_withAtLeast_iff minimum] at inside
    exact absurd ⟨contains_of_holds inside, Or.inr (Or.inr ⟨member, inside, sameZone⟩)⟩ (nothing rack)

theorem place_of_card_eq_of_new (full : racks.inUse.card = (racks.withAtLeast minimum).size)
    (zoned : targetZone zones node ≠ [])
    (new : ∀ rack, ¬racks.HoldsZone zones rack (targetZone zones node)) :
    ∃ rack, (racks.withAtLeast minimum).contains rack = false
      ∧ racks.place minimum zones node = ⟨(racks.withAtLeast minimum).put rack .empty,
        [.rackOpened (targetZone zones node) rack node.name], .ok rack⟩ := by
  rw [← inUse_withAtLeast racks minimum] at full
  rcases place_cases positive racks zones node with ⟨rack, _, ⟨there, suits⟩, _⟩ | ⟨_, _, placed⟩
  · have used := mem_inUse_iff.mp (mem_inUse_of_card_eq full there)
    rcases suits with zoneless | nobody | ⟨member, inside, sameZone⟩
    · exact absurd zoneless zoned
    · exact absurd used (not_exists.mpr nobody)
    · exact absurd ⟨member, (holds_withAtLeast_iff minimum ..).mp inside, sameZone⟩ (new rack)
  · exact ⟨_, contains_freeName _, placed⟩

/-- A node without a zone, or of a zone that has a rack, never has a rack opened, and brings one
rack more into use while there is an empty one. -/
theorem counts_of_known_zone (known : targetZone zones node = []
      ∨ ∃ rack, racks.HoldsZone zones rack (targetZone zones node)) :
    let placed := racks.place minimum zones node
    ∃ rack, placed.result = .ok rack
      ∧ (insert rack racks.inUse).card = min (racks.inUse.card + 1) (racks.withAtLeast minimum).size
      ∧ placed.state.size = (racks.withAtLeast minimum).size ∧ openedIn placed.events = 0 := by
  have bound := card_inUse_le_ready racks minimum
  rcases Nat.lt_or_eq_of_le bound with fewer | full
  · obtain ⟨rack, unused, placed⟩ := place_of_card_lt positive zones node fewer
    rw [placed]
    refine ⟨rack, rfl, ?_, rfl, rfl⟩
    rw [Finset.card_insert_of_notMem unused, Nat.min_eq_left fewer]
  · obtain ⟨rack, used, placed⟩ := place_of_card_eq positive zones node full known
    rw [placed]
    refine ⟨rack, rfl, ?_, rfl, rfl⟩
    rw [Finset.insert_eq_of_mem used]
    omega

/-- A node of a new zone brings one rack more into use, which is opened if none is empty. -/
theorem counts_of_new_zone (zoned : targetZone zones node ≠ [])
    (new : ∀ rack, ¬racks.HoldsZone zones rack (targetZone zones node)) :
    let placed := racks.place minimum zones node
    ∃ rack, placed.result = .ok rack ∧ (insert rack racks.inUse).card = racks.inUse.card + 1
      ∧ placed.state.size = max (racks.withAtLeast minimum).size (racks.inUse.card + 1)
      ∧ (racks.withAtLeast minimum).size + openedIn placed.events = placed.state.size := by
  have bound := card_inUse_le_ready racks minimum
  rcases Nat.lt_or_eq_of_le bound with fewer | full
  · obtain ⟨rack, unused, placed⟩ := place_of_card_lt positive zones node fewer
    rw [placed]
    exact ⟨rack, rfl, Finset.card_insert_of_notMem unused, (Nat.max_eq_left fewer).symm, rfl⟩
  · obtain ⟨rack, absent, placed⟩ := place_of_card_eq_of_new positive zones node full zoned new
    have unused : rack ∉ racks.inUse := by
      rw [← inUse_withAtLeast racks minimum, mem_inUse_iff]
      rintro ⟨member, inside⟩
      exact absurd (contains_of_holds inside) (by simp [absent])
    have opened : ((racks.withAtLeast minimum).put rack .empty).size = racks.inUse.card + 1 := by
      rw [Table.size_put_of_new absent, full]
    rw [placed]
    refine ⟨rack, rfl, Finset.card_insert_of_notMem unused, ?_, ?_⟩
    · rw [opened, full, Nat.max_eq_right (Nat.le_succ _)]
    · rw [opened, full]
      rfl

end
end Racks

namespace Balance

open Node (namedZones NewZonesFirst)

variable {α : Type} [Name α] {rules : BalanceRules} {balance : Balance α} {node : Node} {rack : Text}

theorem openedIn_placeNode
    (found : (balance.racks.place rules.minimumRacks rules.zones node).result = .ok rack) :
    openedIn (balance.placeNode rules node).events =
      openedIn (balance.racks.place rules.minimumRacks rules.zones node).events := by
  have nothing : openedIn (balance.assignmentEvents node rack) = 0 := by
    unfold assignmentEvents openedIn
    split <;> rfl
  rw [placeNode_of_ok rules found]
  unfold openedIn at nothing ⊢
  rw [List.countP_append, List.countP_append, nothing]
  rfl

theorem inUse_placeNode
    (found : (balance.racks.place rules.minimumRacks rules.zones node).result = .ok rack) :
    (balance.placeNode rules node).state.racks.inUse = insert rack balance.racks.inUse := by
  rw [racks_placeNode found, Racks.inUse_addNode,
    Racks.inUse_eq_of_holds_iff (Racks.holds_place_iff balance.racks _ _ node)]

theorem size_placeNode (positive : 1 ≤ rules.minimumRacks)
    (found : (balance.racks.place rules.minimumRacks rules.zones node).result = .ok rack) :
    ((balance.placeNode rules node).state.racks.withAtLeast rules.minimumRacks).size =
      (balance.racks.place rules.minimumRacks rules.zones node).state.size := by
  have size : (balance.placeNode rules node).state.racks.size =
      (balance.racks.place rules.minimumRacks rules.zones node).state.size := by
    rw [racks_placeNode found, Racks.addNode,
      Table.size_put_of_contains (Racks.suits_of_place positive found).1]
  have enough := Racks.le_size_of_place positive balance.racks rules.zones node
  rw [Racks.withAtLeast_of_le (size ▸ enough), size]

/-- How the nodes that were placed are spread over the racks. -/
structure Spread (rules : BalanceRules) (placed : List Node) (balance : Balance α) : Prop where
  held : ∀ member, (∃ rack, balance.racks.Holds rack member) ↔ ∃ node ∈ placed, node.name = member
  /-- There is a rack for every zone that came, and there are as many as were asked for. -/
  size : (balance.racks.withAtLeast rules.minimumRacks).size =
    max rules.minimumRacks.toNat (namedZones Node.zone placed).card
  used : balance.racks.inUse.card =
    min placed.length (max rules.minimumRacks.toNat (namedZones Node.zone placed).card)

section

variable {placed : List Node} (spread : Spread rules placed balance)
  (listed : ∀ other ∈ placed, rules.zones.find? other.name = some other.zone)

include spread listed

theorem Spread.exists_holdsZone_iff {zone : Text} (named : zone ≠ []) :
    (∃ rack, balance.racks.HoldsZone rules.zones rack zone) ↔ zone ∈ namedZones Node.zone placed := by
  rw [Node.mem_namedZones_iff]
  constructor
  · rintro ⟨rack, member, inside, sameZone⟩
    obtain ⟨other, member, rfl⟩ := (spread.held member).mp ⟨rack, inside⟩
    exact ⟨named, other, member, Option.some.inj ((listed other member).symm.trans sameZone)⟩
  · rintro ⟨_, other, member, rfl⟩
    obtain ⟨rack, inside⟩ := (spread.held other.name).mpr ⟨other, member, rfl⟩
    exact ⟨rack, other.name, inside, listed other member⟩

variable (positive : 1 ≤ rules.minimumRacks)
  (own : rules.zones.find? node.name = some node.zone)
  (first : node.zone ≠ [] → node.zone ∉ namedZones Node.zone placed →
    (namedZones Node.zone placed).card = placed.length)

include positive own first

/-- The numbers after a step are again those that the zones that came demand. -/
theorem Spread.counts_placeNode : ∃ rack,
    (balance.racks.place rules.minimumRacks rules.zones node).result = .ok rack
      ∧ (balance.racks.place rules.minimumRacks rules.zones node).state.size =
        max rules.minimumRacks.toNat (namedZones Node.zone (placed ++ [node])).card
      ∧ (insert rack balance.racks.inUse).card = min (placed.length + 1)
        (max rules.minimumRacks.toNat (namedZones Node.zone (placed ++ [node])).card)
      ∧ (namedZones Node.zone placed).card - rules.minimumRacks.toNat
        + openedIn (balance.racks.place rules.minimumRacks rules.zones node).events =
          (namedZones Node.zone (placed ++ [node])).card - rules.minimumRacks.toNat := by
  have size := spread.size
  have used := spread.used
  have target := Racks.targetZone_of_listed own
  by_cases known : node.zone = [] ∨ node.zone ∈ namedZones Node.zone placed
  · have held : Racks.targetZone rules.zones node = []
        ∨ ∃ rack, balance.racks.HoldsZone rules.zones rack (Racks.targetZone rules.zones node) := by
      rw [target]
      refine known.imp_right fun came => (spread.exists_holdsZone_iff listed ?_).mpr came
      exact (Node.mem_namedZones_iff.mp came).1
    obtain ⟨rack, found, inUse, ready, opened⟩ :=
      Racks.counts_of_known_zone positive rules.zones node held
    rw [Node.namedZones_append_of_known known]
    exact ⟨rack, found, by omega, by omega, by omega⟩
  · obtain ⟨zoned, new⟩ := not_or.mp known
    have unheld : ∀ rack,
        ¬balance.racks.HoldsZone rules.zones rack (Racks.targetZone rules.zones node) := by
      rw [target, ← not_exists, spread.exists_holdsZone_iff listed zoned]
      exact new
    obtain ⟨rack, found, inUse, ready, opened⟩ :=
      Racks.counts_of_new_zone positive rules.zones node (target ▸ zoned) unheld
    have all := first zoned new
    rw [Node.card_namedZones_append_of_new zoned new]
    exact ⟨rack, found, by omega, by omega, by omega⟩

theorem Spread.placeNode : ∃ rack,
    (balance.racks.place rules.minimumRacks rules.zones node).result = .ok rack
      ∧ Spread rules (placed ++ [node]) (balance.placeNode rules node).state
      ∧ (namedZones Node.zone placed).card - rules.minimumRacks.toNat
        + openedIn (balance.placeNode rules node).events =
          (namedZones Node.zone (placed ++ [node])).card - rules.minimumRacks.toNat := by
  obtain ⟨rack, found, size, used, opened⟩ := spread.counts_placeNode listed positive own first
  refine ⟨rack, found, ⟨fun member => ?_, ?_, ?_⟩, ?_⟩
  · simp only [racks_placeNode found, Racks.holds_addNode_iff, Racks.holds_place_iff, exists_or,
      spread.held, List.mem_append, List.mem_singleton]
    grind
  · rw [size_placeNode positive found, size]
  · rw [inUse_placeNode found, used, List.length_append, List.length_singleton]
  · rw [openedIn_placeNode found, opened]

end

theorem Spread.placeNodes (positive : 1 ≤ rules.minimumRacks) (accepting : rules.patcher.Accepting)
    {placed : List Node} (spread : Spread rules placed balance) (rest : List Node)
    (listed : ∀ node ∈ placed ++ rest, rules.zones.find? node.name = some node.zone)
    (order : NewZonesFirst Node.zone (placed ++ rest)) :
    Spread rules (placed ++ rest) (balance.placeNodes rules rest).state
      ∧ (namedZones Node.zone placed).card - rules.minimumRacks.toNat
        + openedIn (balance.placeNodes rules rest).events =
          (namedZones Node.zone (placed ++ rest)).card - rules.minimumRacks.toNat := by
  induction rest generalizing placed balance with
  | nil =>
    rw [List.append_nil]
    exact ⟨spread, rfl⟩
  | cons node rest ih =>
    obtain ⟨rack, found, after, opened⟩ := spread.placeNode
      (fun other member => listed other (List.mem_append_left _ member)) positive
      (listed node (List.mem_append_right _ List.mem_cons_self)) (order placed node rest rfl)
    have success := result_placeNode_of_accepted found (accepting _ _)
    rw [List.append_cons] at listed order ⊢
    obtain ⟨spreadLater, openedLater⟩ := ih after listed order
    rw [placeNodes_cons_of_ok rules rest success]
    refine ⟨spreadLater, ?_⟩
    rw [← openedLater, ← opened, openedIn, List.countP_append, ← Nat.add_assoc]
    rfl

theorem Spread.of_perm {placed nodes : List Node} (spread : Spread rules placed balance)
    (same : placed.Perm nodes) : Spread rules nodes balance := by
  have sameZones := Node.namedZones_eq_of_perm Node.zone same
  refine ⟨fun member => ?_, sameZones ▸ spread.size, ?_⟩
  · simp only [spread.held, same.mem_iff]
  · rw [← sameZones, ← same.length_eq]
    exact spread.used

end Balance

def warnsOfNoRack : Event.Level × Text → Bool
  | (level, text) => level = .warning && ("No rack available for zone " : Text).isPrefixOf text

theorem countP_warnsOfNoRack (events : List Event) :
    (logOf events).countP warnsOfNoRack = openedIn events := by
  unfold logOf openedIn
  rw [List.countP_filterMap]
  refine List.countP_congr fun event _ => ?_
  cases event with
  | rackOpened zone rack node =>
    simp [Event.line?, Event.opensRack, warnsOfNoRack]
  | _ => simp [Event.line?, Event.opensRack, warnsOfNoRack]

namespace Topology

open Node (namedZones NewZonesFirst)

section

variable {nodes : List Node} {racks : Racks}

/-- Where nobody stands all nodes are placed, the first of each zone before any others. -/
theorem unplaced_perm (nobody : ∀ rack member, ¬racks.Holds rack member) (nodes : List Node)
    (zones : Zones) :
    (unplaced racks zones nodes).Perm nodes := by
  have everyone : (nodes.filter fun node => !racks.nodes.contains node.name) = nodes := by
    simp [Racks.mem_nodes_iff, nobody]
  rw [unplaced, everyone]
  exact Node.placementOrder_perm _ _

theorem newZonesFirst_unplaced (distinct : (nodes.map Node.name).Nodup) (racks : Racks) :
    NewZonesFirst Node.zone (unplaced racks (Zones.ofNodes nodes) nodes) := by
  refine (Node.newZonesFirst_placementOrder _ _).congr fun node member => ?_
  obtain ⟨listed, _⟩ := mem_unplaced_iff.mp member
  rw [(Zones.find?_ofNodes_iff distinct).mpr ⟨node, listed, rfl, rfl⟩, Option.getD_some]

theorem spread_of_nobody (nobody : ∀ rack member, ¬racks.Holds rack member)
    (inhabited : racks.Inhabited) {α : Type} [Name α] (t : Topology α) (rules : BalanceRules) :
    Balance.Spread rules [] ⟨racks, t, []⟩ := by
  have none : racks.inUse = ∅ := by
    ext rack
    simp [Racks.mem_inUse_iff, nobody]
  have size : racks.size = 0 := by
    refine Table.size_eq_zero_iff.mpr (Table.isEmpty_iff.mpr fun rack => ?_)
    rw [Bool.eq_false_iff]
    intro there
    obtain ⟨member, inside⟩ := inhabited rack there
    exact nobody rack member inside
  refine ⟨fun member => ?_, ?_, ?_⟩
  · simp [nobody]
  · rw [Racks.size_withAtLeast, size]
    simp [namedZones]
  · simp [none]

end

section

variable {nodes : List Node} {t : Topology Text}
  (nowhere : ∀ node ∈ nodes, ∀ rack, ¬t.Stands [] rack node)

include nowhere

theorem exists_balance_eq_of_nowhere (minimum : Int) (patcher : Patcher) :
    ∃ racks : Racks, (∀ rack member, ¬racks.Holds rack member) ∧ racks.Inhabited
      ∧ t.balance nodes minimum patcher =
        Balance.placeNodes ⟨minimum, Zones.ofNodes nodes, patcher⟩
          (unplaced racks (Zones.ofNodes nodes) nodes) ⟨racks, t, []⟩ := by
  obtain ⟨racks, known, _⟩ := Racks.exists_known t .empty nodes
  refine ⟨racks, ?_, Racks.inhabited_of_known known, balance_of_known known minimum patcher⟩
  intro rack member inside
  obtain ⟨node, listed, _, stands⟩ := (Racks.holds_known_iff known rack member).mp inside
  exact nowhere node listed rack stands

theorem holds_balance_iff_givenBy (minimum : Int) (patcher : Patcher) (rack member : Text) :
    (t.balance nodes minimum patcher).state.racks.Holds rack member ↔
      GivenBy (t.balance nodes minimum patcher).state.offered rack member := by
  obtain ⟨racks, nobody, _, pass⟩ := exists_balance_eq_of_nowhere nowhere minimum patcher
  rw [pass, Balance.holds_placeNodes_iff _ rfl, or_iff_right (nobody rack member)]

variable (distinct : (nodes.map Node.name).Nodup) {minimum : Int} (positive : 1 ≤ minimum)
  {patcher : Patcher} (accepting : patcher.Accepting)

omit nowhere in
include distinct in
theorem find?_ofNodes_of_mem_unplaced {racks : Racks} :
    ∀ node ∈ unplaced racks (Zones.ofNodes nodes) nodes,
      (Zones.ofNodes nodes).find? node.name = some node.zone := fun node member =>
  (Zones.find?_ofNodes_iff distinct).mpr ⟨node, (mem_unplaced_iff.mp member).1, rfl, rfl⟩

include distinct positive accepting

theorem spread_balance :
    Balance.Spread ⟨minimum, Zones.ofNodes nodes, patcher⟩ nodes
        (t.balance nodes minimum patcher).state
      ∧ openedIn (t.balance nodes minimum patcher).events =
        (namedZones Node.zone nodes).card - minimum.toNat := by
  obtain ⟨racks, nobody, inhabited, pass⟩ := exists_balance_eq_of_nowhere nowhere minimum patcher
  have all := unplaced_perm nobody nodes (Zones.ofNodes nodes)
  let rules : BalanceRules := ⟨minimum, Zones.ofNodes nodes, patcher⟩
  let order := unplaced racks rules.zones nodes
  have start : Balance.Spread rules [] ⟨racks, t, []⟩ := spread_of_nobody nobody inhabited t rules
  obtain ⟨spread, opened⟩ := start.placeNodes positive accepting order
    (find?_ofNodes_of_mem_unplaced distinct) (newZonesFirst_unplaced distinct racks)
  rw [List.nil_append, Node.namedZones_eq_of_perm Node.zone all] at opened
  rw [pass, ← opened]
  exact ⟨spread.of_perm all, by simp [namedZones, rules, order]⟩

end

/-- Nodes that stand nowhere spread over as many racks as there are nodes, up to the number of racks
asked for or of zones, whichever is greater. Every zone has a rack with nodes of no other zone, and a
rack is opened, with a warning, for each zone beyond the number of racks asked for. -/
theorem unlabelled_nodes_spread_over_racks {nodes : List Node} (distinct : (nodes.map Node.name).Nodup)
    {t : Topology Text} (unlabelled : ∀ node ∈ nodes, ∀ rack, ¬node.NamesRack rack)
    (unrecorded : ∀ node ∈ nodes, t.recordedRack node.name = .ok []) {minimum : Int}
    (positive : 1 ≤ minimum) {patcher : Patcher} (accepting : patcher.Accepting) :
    let zones := namedZones Node.zone nodes
    let pass := t.ensureRacks nodes minimum patcher
    ∃ patches, pass.result = .ok patches
      ∧ (patches.map LabelPatch.node).Perm (nodes.map Node.name)
      ∧ (∀ node ∈ nodes, ∃ rack, GivenBy patches rack node.name)
      ∧ (patches.filterMap LabelPatch.rack?).toFinset.card =
        min nodes.length (max minimum.toNat zones.card)
      ∧ (∀ zone ∈ zones, ∃ rack,
        zonesIn nodes (fun node => GivenBy patches rack node.name) = {zone})
      ∧ (logOf pass.events).countP warnsOfNoRack = zones.card - minimum.toNat := by
  intro zones pass
  have nowhere : ∀ node ∈ nodes, ∀ rack, ¬t.Stands [] rack node := by
    rintro node listed rack (names | ⟨named, recorded⟩ | ⟨_, none, _⟩)
    · exact unlabelled node listed rack names
    · exact named (Except.ok.inj ((unrecorded node listed).symm.trans recorded)).symm
    · exact absurd none (by simp)
  obtain ⟨patches, success, offered⟩ := t.exists_patches_of_accepting positive nodes accepting
  obtain ⟨spread, opened⟩ := spread_balance nowhere distinct positive accepting
  have holds := holds_balance_iff_givenBy nowhere minimum patcher
  rw [offered] at holds
  have placed : ∀ node ∈ nodes, ∃ rack, GivenBy patches rack node.name := by
    intro node listed
    obtain ⟨rack, inside⟩ := (spread.held node.name).mpr ⟨node, listed, rfl⟩
    exact ⟨rack, (holds rack node.name).mp inside⟩
  refine ⟨patches, success, ?_, placed, ?_, ?_, ?_⟩
  · obtain ⟨racks, nobody, _, balanced⟩ := exists_balance_eq_of_nowhere nowhere minimum patcher
    have offers := Balance.offers_placeNodes ⟨minimum, Zones.ofNodes nodes, patcher⟩
      (unplaced racks (Zones.ofNodes nodes) nodes) ⟨racks, t, []⟩
    rw [← balanced] at offers
    rw [(offers.succeeded patches success).2.2]
    exact (unplaced_perm nobody nodes _).map Node.name
  · rw [← spread.used]
    congr 1
    ext rack
    simp only [Racks.mem_inUse_iff, holds, List.mem_toFinset, List.mem_filterMap, GivenBy]
    grind
  · intro zone member
    obtain ⟨zoned, node, listed, rfl⟩ := Node.mem_namedZones_iff.mp member
    obtain ⟨rack, given⟩ := placed node listed
    have joined := (holds_balance_iff_and_allJoinOwnZone distinct t minimum patcher).2
    have single := (zonesIn_of_allJoinOwnZone distinct joined rack).2
      fun other member => nowhere other member rack
    refine ⟨rack, Set.Subsingleton.eq_singleton_of_mem ?_ ⟨zoned, node, listed, given, rfl⟩⟩
    rwa [zonesIn_congr fun other member => stands_iff.trans
      (or_iff_right (nowhere other member rack)), offered] at single
  · rw [countP_warnsOfNoRack, ← opened]
    rfl

/-! Five nodes of three zones, one of them without a zone, beside a rack that is recorded for a node
that is not listed. -/

def nodesOfThreeZones : List Node := [⟨"a1", .ofList [("topology.kubernetes.io/zone", "a")]⟩,
  ⟨"a2", .ofList [("topology.kubernetes.io/zone", "a")]⟩,
  ⟨"b1", .ofList [("topology.kubernetes.io/zone", "b")]⟩,
  ⟨"c1", .ofList [("topology.kubernetes.io/zone", "c")]⟩, ⟨"n1", .empty⟩]

def otherRecorded : Topology Text := (empty : Topology Text).addNode rackKey "rack0" "gone"

theorem unlabelled_nodesOfThreeZones : ∀ node ∈ nodesOfThreeZones, ∀ rack, ¬node.NamesRack rack := by
  have labels : ∀ node ∈ nodesOfThreeZones, ∀ entry ∈ node.labels.entries,
      Racks.isRackLabel entry.1 = false := by decide
  rintro node listed rack ⟨label, isRack, found⟩
  have notRack := labels node listed (label, rack) ((Table.find?_eq_some_iff ..).mp found)
  exact absurd (isRack.symm.trans notRack) (by simp)

theorem unrecorded_nodesOfThreeZones :
    ∀ node ∈ nodesOfThreeZones, otherRecorded.recordedRack node.name = .ok [] := by
  intro node listed
  simp only [nodesOfThreeZones, List.mem_cons, List.not_mem_nil, or_false] at listed
  rcases listed with rfl | rfl | rfl | rfl | rfl <;> rfl

theorem three_racks_for_three_zones :
    (nodesOfThreeZones.map Node.name).Nodup
      ∧ (∀ node ∈ nodesOfThreeZones, ∀ rack, ¬node.NamesRack rack)
      ∧ (∀ node ∈ nodesOfThreeZones, otherRecorded.recordedRack node.name = .ok [])
      ∧ (1 : Int) ≤ 2 ∧ Patcher.Accepting (fun _ _ => .accepted)
      ∧ let pass := otherRecorded.ensureRacks nodesOfThreeZones 2 fun _ _ => .accepted
        ∃ patches, pass.result = .ok patches
          ∧ (patches.filterMap LabelPatch.rack?).toFinset.card = 3
          ∧ (logOf pass.events).countP warnsOfNoRack = 1 := by
  have distinct : (nodesOfThreeZones.map Node.name).Nodup := by decide
  have accepting : Patcher.Accepting (fun _ _ => .accepted) := fun _ _ => rfl
  have zones : (namedZones Node.zone nodesOfThreeZones).card = 3 := by decide
  obtain ⟨patches, success, _, _, used, _, warned⟩ := unlabelled_nodes_spread_over_racks distinct
    unlabelled_nodesOfThreeZones unrecorded_nodesOfThreeZones (by decide : (1 : Int) ≤ 2) accepting
  rw [zones] at used warned
  exact ⟨distinct, unlabelled_nodesOfThreeZones, unrecorded_nodesOfThreeZones, by decide, accepting,
    patches, success, used, warned⟩

end Topology
end ClusterTopology
