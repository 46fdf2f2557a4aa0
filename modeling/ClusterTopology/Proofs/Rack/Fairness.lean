import ClusterTopology.Proofs.Rack.Choice
import ClusterTopology.Proofs.Rack.Zones

/-!
Balance between the racks of a zone. However unbalanced the racks are at the start, a rack that is
given a node has then at most one node more than any other rack of its zone, and stays so, because
every later node of the zone goes to the least populated of them. An empty rack is open to every zone,
so as long as there is one, no rack that was given a node holds more than that node.
-/

namespace ClusterTopology

theorem Racks.population_eq_countP {nodes : List Node} (distinct : (nodes.map Node.name).Nodup)
    {racks : Racks} {rack : Text}
    (listed : ∀ member, racks.Holds rack member → ∃ node ∈ nodes, node.name = member) :
    racks.population rack =
      nodes.countP fun node => (racks.members rack).contains node.name := by
  have distinctThere : ((nodes.filter fun node =>
      (racks.members rack).contains node.name).map Node.name).Nodup :=
    distinct.sublist (List.filter_sublist.map _)
  have same : (racks.members rack).keys.Perm ((nodes.filter fun node =>
      (racks.members rack).contains node.name).map Node.name) := by
    refine (List.perm_ext_iff_of_nodup (Table.keys_nodup _) distinctThere).mpr fun member => ?_
    rw [Table.mem_keys_iff]
    simp only [List.mem_map, List.mem_filter]
    constructor
    · intro inside
      obtain ⟨node, member, rfl⟩ := listed member inside
      exact ⟨node, ⟨member, inside⟩, rfl⟩
    · rintro ⟨node, ⟨_, inside⟩, rfl⟩
      exact inside
  rw [population, Table.size_eq_length_keys, same.length_eq, List.length_map,
    List.countP_eq_length_filter]

namespace Balance

def ShareZone (zones : Zones) (racks : Racks) (rack other : Text) : Prop :=
  ∃ zone, zone ≠ [] ∧ racks.HoldsZone zones rack zone ∧ racks.HoldsZone zones other zone

/-- There is nothing to choose by but the numbers: the second rack is empty and so open to every
zone, or some zone has nodes in both, or no node has a zone. -/
def Compete (zones : Zones) (racks : Racks) (rack other : Text) : Prop :=
  racks.population other = 0 ∨ ShareZone zones racks rack other
    ∨ ∀ name zone, zones.find? name = some zone → zone = []

/-- What keeps the racks balanced at every point of a pass. -/
structure FairShare {α : Type} [Name α] (rules : BalanceRules) (balance : Balance α) : Prop where
  /-- The racks are made up to the least number before the first node is given one. -/
  enough : balance.offered ≠ [] → rules.minimumRacks ≤ balance.racks.size
  pure : ∀ rack zone other, zone ≠ [] → other ≠ [] → balance.racks.HoldsZone rules.zones rack zone →
    balance.racks.HoldsZone rules.zones rack other → zone = other
  fair : ∀ rack other node, GivenBy balance.offered rack node → balance.racks.contains other = true →
    Compete rules.zones balance.racks rack other →
      balance.racks.population rack ≤ balance.racks.population other + 1

section

variable {α : Type} [Name α] {rules : BalanceRules} {balance : Balance α} {node : Node}
  {chosen : Text} (found : (balance.racks.place rules.minimumRacks rules.zones node).result = .ok chosen)

include found

theorem holdsZone_placeNode_iff (rack zone : Text) :
    (balance.placeNode rules node).state.racks.HoldsZone rules.zones rack zone ↔
      (rack = chosen ∧ rules.zones.find? node.name = some zone)
        ∨ balance.racks.HoldsZone rules.zones rack zone := by
  rw [racks_placeNode found, Racks.holdsZone_addNode_iff, Racks.holdsZone_place_iff]

theorem population_placeNode_of_ne {rack : Text} (different : rack ≠ chosen) :
    (balance.placeNode rules node).state.racks.population rack = balance.racks.population rack := by
  rw [racks_placeNode found, Racks.population_addNode_of_ne _ different, Racks.population_place]

theorem population_placeNode_bounds :
    balance.racks.population chosen ≤ (balance.placeNode rules node).state.racks.population chosen
      ∧ (balance.placeNode rules node).state.racks.population chosen ≤
        balance.racks.population chosen + 1 := by
  have bounds := Racks.population_addNode_bounds
    (balance.racks.place rules.minimumRacks rules.zones node).state chosen node.name
  rwa [← racks_placeNode found, Racks.population_place] at bounds

theorem contains_placeNode_iff (rack : Text) :
    (balance.placeNode rules node).state.racks.contains rack = true ↔ rack = chosen
      ∨ (balance.racks.place rules.minimumRacks rules.zones node).state.contains rack = true := by
  rw [racks_placeNode found, Racks.contains_addNode_iff]

variable (positive : 1 ≤ rules.minimumRacks)
  (zoned : rules.zones.find? node.name = some (Racks.targetZone rules.zones node))

include positive zoned

theorem compete_of_compete_placeNode {rack other : Text} (different : rack ≠ chosen)
    (compete : Compete rules.zones (balance.placeNode rules node).state.racks rack other) :
    Compete rules.zones balance.racks rack other := by
  rcases compete with nobody | ⟨zone, named, holds, holdsOther⟩ | zoneless
  · refine Or.inl ?_
    by_cases same : other = chosen
    · subst other
      have bounds := population_placeNode_bounds found
      omega
    · rwa [population_placeNode_of_ne found same] at nobody
  · have here := ((holdsZone_placeNode_iff found _ _).mp holds).resolve_left fun both =>
      different both.1
    rcases (holdsZone_placeNode_iff found _ _).mp holdsOther with ⟨rfl, ofNode⟩ | before
    · -- The chosen rack was empty, or nodes of the zone stood in it already.
      obtain rfl := Option.some.inj (zoned.symm.trans ofNode)
      obtain ⟨_, zoneless | nobody | shared⟩ := Racks.suits_of_place positive found
      · exact absurd zoneless named
      · rw [← Racks.population_eq_zero_iff, Racks.population_place] at nobody
        exact Or.inl nobody
      · rw [Racks.holdsZone_place_iff] at shared
        exact Or.inr (Or.inl ⟨_, named, here, shared⟩)
    · exact Or.inr (Or.inl ⟨zone, named, here, before⟩)
  · exact Or.inr (Or.inr zoneless)

variable (fair : FairShare rules balance)

include fair

omit zoned in
theorem FairShare.zone_eq_of_holdsZone {zone : Text} (named : zone ≠ [])
    (holds : balance.racks.HoldsZone rules.zones chosen zone)
    (target : Racks.targetZone rules.zones node ≠ []) :
    zone = Racks.targetZone rules.zones node := by
  obtain ⟨_, zoneless | nobody | shared⟩ := Racks.suits_of_place positive found
  · exact absurd zoneless target
  · obtain ⟨member, inside, _⟩ := holds
    exact absurd ((Racks.holds_place_iff ..).mpr inside) (nobody member)
  · exact fair.pure chosen zone _ named target holds ((Racks.holdsZone_place_iff ..).mp shared)

theorem FairShare.pure_placeNode {rack zone other : Text} (named : zone ≠ []) (namedOther : other ≠ [])
    (holds : (balance.placeNode rules node).state.racks.HoldsZone rules.zones rack zone)
    (holdsOther : (balance.placeNode rules node).state.racks.HoldsZone rules.zones rack other) :
    zone = other := by
  rw [holdsZone_placeNode_iff found, zoned, Option.some.injEq] at holds holdsOther
  rcases holds with ⟨rfl, rfl⟩ | holds <;> rcases holdsOther with ⟨same, rfl⟩ | holdsOther
  · rfl
  · exact (fair.zone_eq_of_holdsZone found positive namedOther holdsOther named).symm
  · exact fair.zone_eq_of_holdsZone found positive named (same ▸ holds) namedOther
  · exact fair.pure rack zone other named namedOther holds holdsOther

theorem FairShare.suits_of_compete {other : Text} (different : other ≠ chosen)
    (there : (balance.placeNode rules node).state.racks.contains other = true)
    (compete : Compete rules.zones (balance.placeNode rules node).state.racks chosen other) :
    (balance.racks.place rules.minimumRacks rules.zones node).state.Suits rules.zones
      (Racks.targetZone rules.zones node) other := by
  refine ⟨((contains_placeNode_iff found _).mp there).resolve_left different, ?_⟩
  rcases compete with nobody | ⟨zone, named, holds, holdsOther⟩ | zoneless
  · rw [population_placeNode_of_ne found different, Racks.population_eq_zero_iff] at nobody
    simp only [Racks.holds_place_iff]
    exact Or.inr (Or.inl nobody)
  · by_cases target : Racks.targetZone rules.zones node = []
    · exact Or.inl target
    rw [Racks.holdsZone_place_iff]
    have elsewhere := ((holdsZone_placeNode_iff found _ _).mp holdsOther).resolve_left fun both =>
      different both.1
    rcases (holdsZone_placeNode_iff found _ _).mp holds with ⟨_, ofNode⟩ | before
    · obtain rfl := Option.some.inj (zoned.symm.trans ofNode)
      exact Or.inr (Or.inr elsewhere)
    · rw [fair.zone_eq_of_holdsZone found positive named before target] at elsewhere
      exact Or.inr (Or.inr elsewhere)
  · exact Or.inl (zoneless _ _ zoned)

theorem FairShare.not_compete_of_opened {rack : Text} (different : rack ≠ chosen)
    (target : Racks.targetZone rules.zones node ≠ [])
    (only : ∀ suited, (balance.racks.place rules.minimumRacks rules.zones node).state.Suits
      rules.zones (Racks.targetZone rules.zones node) suited → suited = chosen) :
    ¬Compete rules.zones (balance.placeNode rules node).state.racks rack chosen := by
  rintro (nobody | ⟨zone, named, holds, holdsChosen⟩ | zoneless)
  · rw [Racks.population_eq_zero_iff] at nobody
    apply nobody node.name
    rw [racks_placeNode found, Racks.holds_addNode_iff]
    exact Or.inl ⟨rfl, rfl⟩
  · have here := ((holdsZone_placeNode_iff found _ _).mp holds).resolve_left fun both =>
      different both.1
    have sameZone : zone = Racks.targetZone rules.zones node := by
      rcases (holdsZone_placeNode_iff found _ _).mp holdsChosen with ⟨_, ofNode⟩ | before
      · exact Option.some.inj (ofNode.symm.trans zoned)
      · exact fair.zone_eq_of_holdsZone found positive named before target
    have placedHere : (balance.racks.place rules.minimumRacks rules.zones node).state.HoldsZone
        rules.zones rack (Racks.targetZone rules.zones node) :=
      (Racks.holdsZone_place_iff ..).mpr (sameZone ▸ here)
    have ⟨_, inside, _⟩ := placedHere
    exact different (only rack ⟨Racks.contains_of_holds inside, Or.inr (Or.inr placedHere)⟩)
  · exact target (zoneless _ _ zoned)

/-- The rack just chosen has at most one node more than those it competes with. -/
theorem FairShare.fair_chosen {other : Text}
    (there : (balance.placeNode rules node).state.racks.contains other = true)
    (compete : Compete rules.zones (balance.placeNode rules node).state.racks chosen other) :
    (balance.placeNode rules node).state.racks.population chosen ≤
      (balance.placeNode rules node).state.racks.population other + 1 := by
  by_cases same : other = chosen
  · rw [same]
    exact Nat.le_succ _
  have least := Racks.population_le_of_place positive found
    (fair.suits_of_compete found positive zoned same there compete)
  rw [population_placeNode_of_ne found same]
  exact (population_placeNode_bounds found).2.trans (Nat.succ_le_succ least)

/-- A rack that was given a node before keeps its share, since it competes only with racks that were
there, and these do not lose nodes. -/
theorem FairShare.fair_other {rack other name : Text} (different : rack ≠ chosen)
    (given : GivenBy balance.offered rack name)
    (there : (balance.placeNode rules node).state.racks.contains other = true)
    (compete : Compete rules.zones (balance.placeNode rules node).state.racks rack other) :
    (balance.placeNode rules node).state.racks.population rack ≤
      (balance.placeNode rules node).state.racks.population other + 1 := by
  have someOffered : balance.offered ≠ [] := by
    obtain ⟨patch, listed, _⟩ := given
    exact List.ne_nil_of_mem listed
  have placedThere : (balance.racks.place rules.minimumRacks rules.zones node).state.contains other =
      true := by
    rcases (contains_placeNode_iff found _).mp there with rfl | before
    · exact (Racks.suits_of_place positive found).1
    · exact before
  have before : balance.racks.contains other = true := by
    rcases Racks.contains_or_opened_of_place positive found (fair.enough someOffered) placedThere with
      before | ⟨rfl, target, only⟩
    · exact before
    · exact absurd compete (fair.not_compete_of_opened found positive zoned different target only)
  have share := fair.fair rack other name given before
    (compete_of_compete_placeNode found positive zoned different compete)
  have grown : balance.racks.population other ≤
      (balance.placeNode rules node).state.racks.population other := by
    by_cases same : other = chosen
    · exact same ▸ (population_placeNode_bounds found).1
    · rw [population_placeNode_of_ne found same]
  rw [population_placeNode_of_ne found different]
  exact share.trans (Nat.succ_le_succ grown)

theorem FairShare.placeNode : FairShare rules (balance.placeNode rules node).state := by
  refine ⟨fun _ => ?_, fun rack zone other => fair.pure_placeNode found positive zoned, ?_⟩
  · rw [racks_placeNode found, Racks.addNode,
      Table.size_put_of_contains (Racks.suits_of_place positive found).1]
    exact Racks.le_size_of_place positive _ _ _
  · intro rack other name given there compete
    by_cases same : rack = chosen
    · subst rack
      exact fair.fair_chosen found positive zoned there compete
    · rw [(placeNode_offers rules found).2.1, givenBy_append_iff, LabelPatch.rack?_recordRack] at given
      have earlier := given.resolve_right fun both => same (Option.some.inj both.2).symm
      exact fair.fair_other found positive zoned same earlier there compete

end
end Balance

theorem Zones.find?_eq_targetZone {nodes : List Node} (distinct : (nodes.map Node.name).Nodup)
    {node : Node} (listed : node ∈ nodes) :
    (ofNodes nodes).find? node.name = some (Racks.targetZone (ofNodes nodes) node) := by
  have found : (ofNodes nodes).find? node.name = some node.zone :=
    (find?_ofNodes_iff distinct).mpr ⟨node, listed, rfl, rfl⟩
  rw [found, Racks.targetZone_of_listed found]

theorem Racks.holdsZone_iff_mem_zonesIn {nodes : List Node}
    (distinct : (nodes.map Node.name).Nodup) {racks : Racks} {rack zone : Text} (named : zone ≠ []) :
    racks.HoldsZone (Zones.ofNodes nodes) rack zone ↔
      zone ∈ zonesIn nodes fun node => racks.Holds rack node.name := by
  simp only [HoldsZone, Zones.find?_ofNodes_iff distinct, zonesIn, Set.mem_ofPred_eq, named, ne_eq,
    not_false_eq_true, true_and]
  grind

namespace Topology

section

variable {nodes : List Node} (distinct : (nodes.map Node.name).Nodup) {minimum : Int}
  (positive : 1 ≤ minimum) {t : Topology Text}

include distinct positive

/-- A pass from racks of one zone each is balanced wherever it ends. -/
theorem fairShare_balance
    (pure : ∀ rack, (zonesIn nodes (t.Stands [] rack)).Subsingleton) (patcher : Patcher) :
    Balance.FairShare ⟨minimum, Zones.ofNodes nodes, patcher⟩
      (t.balance nodes minimum patcher).state := by
  obtain ⟨before, holdsBefore, pass⟩ := t.exists_balance_eq nodes minimum patcher
  have holds : ∀ rack, ∀ node ∈ nodes, before.Holds rack node.name ↔ t.Stands [] rack node := by
    intro rack node listed
    rw [holdsBefore, exists_sameName_stands_iff distinct listed]
  rw [pass]
  apply Balance.placeNodes_invariant _
  · refine ⟨fun someOffered => absurd rfl someOffered, ?_, ?_⟩
    · intro rack zone other named namedOther holdsZone holdsOther
      rw [Racks.holdsZone_iff_mem_zonesIn distinct named] at holdsZone
      rw [Racks.holdsZone_iff_mem_zonesIn distinct namedOther] at holdsOther
      rw [zonesIn_congr (holds rack)] at holdsZone holdsOther
      exact pure rack holdsZone holdsOther
    · intro rack other node given
      obtain ⟨_, listed, _⟩ := given
      exact absurd listed (by simp)
  · intro node member balance fair
    obtain ⟨listed, _⟩ := mem_unplaced_iff.mp member
    obtain ⟨chosen, found⟩ := Racks.exists_place_eq_ok positive balance.racks (Zones.ofNodes nodes) node
    exact fair.placeNode found positive (Zones.find?_eq_targetZone distinct listed)

omit positive in
theorem population_balance (patcher : Patcher) (rack : Text) :
    (t.balance nodes minimum patcher).state.racks.population rack = nodes.countP fun node =>
      ((t.balance nodes minimum patcher).state.racks.members rack).contains node.name := by
  apply Racks.population_eq_countP distinct
  exact fun member => exists_listed_of_holds_balance

end

/-- From racks that hold at most one zone each, a pass leaves each rack that it gave a node with at
most one node more than every other rack with its zone, and, where no node has a zone, than every
other rack at all. It ends with success if every patch is accepted, but the numbers are kept wherever
it ends. -/
theorem racks_of_one_zone_stay_balanced {nodes : List Node}
    (distinct : (nodes.map Node.name).Nodup) {minimum : Int} (positive : 1 ≤ minimum)
    {t : Topology Text} (pure : ∀ rack, (zonesIn nodes (t.Stands [] rack)).Subsingleton)
    (patcher : Patcher) :
    let after := (t.balance nodes minimum patcher).state
    let zonesHeld (rack : Text) := zonesIn nodes fun node => after.racks.Holds rack node.name
    let size (rack : Text) := nodes.countP fun node => (after.racks.members rack).contains node.name
    (patcher.Accepting → ∃ patches,
        (t.ensureRacks nodes minimum patcher).result = .ok patches ∧ after.offered = patches)
      ∧ (∀ rack other zone, zone ∈ zonesHeld rack → zone ∈ zonesHeld other →
        (∃ node, GivenBy after.offered rack node) → size rack ≤ size other + 1)
      ∧ ((∀ node ∈ nodes, node.zone = []) → ∀ rack other, after.racks.contains rack = true →
        after.racks.contains other = true → (∃ node, GivenBy after.offered rack node) →
          size rack ≤ size other + 1) := by
  intro after zonesHeld size
  have fair := fairShare_balance distinct positive pure patcher
  have counted : ∀ rack, size rack = after.racks.population rack :=
    fun rack => (population_balance distinct patcher rack).symm
  refine ⟨t.exists_patches_of_accepting positive nodes, ?_, ?_⟩
  · intro rack other zone here there ⟨node, given⟩
    have named : zone ≠ [] := here.1
    rw [← Racks.holdsZone_iff_mem_zonesIn distinct named] at here there
    have ⟨_, inside, _⟩ := there
    rw [counted, counted]
    exact fair.fair rack other node given (Racks.contains_of_holds inside)
      (Or.inr (Or.inl ⟨zone, named, here, there⟩))
  · intro zoneless rack other _ there ⟨node, given⟩
    rw [counted, counted]
    refine fair.fair rack other node given there (Or.inr (Or.inr fun name zone found => ?_))
    obtain ⟨member, listed, _, rfl⟩ := (Zones.find?_ofNodes_iff distinct).mp found
    exact zoneless member listed

/-! Four nodes of one zone in two racks, three of them in the first, and a fifth without a rack. -/

def racked (name zone rack : Text) : Node :=
  ⟨name, .ofList [("topology.kubernetes.io/zone", zone), ("example.org/rack", rack)]⟩

def unevenRacks : List Node := [racked "a1" "a" "big", racked "a2" "a" "big", racked "a3" "a" "big",
  racked "a4" "a" "small", racked "b1" "b" "other",
  ⟨"a5", .ofList [("topology.kubernetes.io/zone", "a")]⟩]

theorem zone_of_rack_label : ∀ node ∈ unevenRacks, ∀ entry ∈ node.labels.entries,
    Racks.isRackLabel entry.1 = true → node.zone = if entry.2 = "other" then "b" else "a" := by
  decide

theorem oneZone_unevenRacks (rack : Text) :
    (zonesIn unevenRacks ((empty : Topology Text).Stands [] rack)).Subsingleton := by
  have zoneThere : ∀ node ∈ unevenRacks, (empty : Topology Text).Stands [] rack node →
      node.zone = if rack = "other" then "b" else "a" := by
    rintro node listed (⟨label, isRack, found⟩ | ⟨named, recorded⟩ | ⟨patch, none, _⟩)
    · exact zone_of_rack_label node listed (label, rack) ((Table.find?_eq_some_iff ..).mp found) isRack
    · exact absurd (Except.ok.inj recorded).symm named
    · exact absurd none (by simp)
  rintro zone ⟨_, node, listed, stands, rfl⟩ other ⟨_, twin, listedTwin, standsTwin, rfl⟩
  rw [zoneThere node listed stands, zoneThere twin listedTwin standsTwin]

theorem smaller_rack_filled :
    (unevenRacks.map Node.name).Nodup ∧ (1 : Int) ≤ 2
      ∧ (∀ rack, (zonesIn unevenRacks ((empty : Topology Text).Stands [] rack)).Subsingleton)
      ∧ let after := ((empty : Topology Text).balance unevenRacks 2 fun _ _ => .accepted).state
        GivenBy after.offered "small" "a5"
        ∧ (unevenRacks.countP fun node => (after.racks.members "small").contains node.name) ≤
          (unevenRacks.countP fun node => (after.racks.members "big").contains node.name) + 1 := by
  have distinct : (unevenRacks.map Node.name).Nodup := by decide
  refine ⟨distinct, by decide, oneZone_unevenRacks, ?_⟩
  intro after
  have given : GivenBy after.offered "small" "a5" := by
    have offered : (("a5", some "small") : Text × Option Text) ∈
        after.offered.map fun patch => (patch.node, patch.rack?) := by decide +kernel
    obtain ⟨patch, listed, same⟩ := List.mem_map.mp offered
    exact ⟨patch, listed, (Prod.mk.inj same).1, (Prod.mk.inj same).2⟩
  have inSmall : after.racks.Holds "small" "a4" := by
    unfold Racks.Holds
    decide +kernel
  have inBig : after.racks.Holds "big" "a1" := by
    unfold Racks.Holds
    decide +kernel
  exact ⟨given, (racks_of_one_zone_stay_balanced distinct (by decide : (1 : Int) ≤ 2)
    oneZone_unevenRacks _).2.1 "small" "big" "a"
    ⟨by decide, racked "a4" "a" "small", by simp [unevenRacks], inSmall, by decide⟩
    ⟨by decide, racked "a1" "a" "big", by simp [unevenRacks], inBig, by decide⟩ ⟨_, given⟩⟩

end Topology
end ClusterTopology
