import ClusterTopology.Proofs.Table
import ClusterTopology.Rack.Order
import Mathlib.Data.Finset.Card
import Mathlib.Data.List.Flatten
import Mathlib.Data.List.Perm.Basic

/-!
The order in which nodes are placed is a permutation of them: none is left out, added or repeated.
It starts with one node of each zone.
-/

namespace ClusterTopology

section

variable {α : Type}

theorem filterMap_turns (group : List α) {turns : Nat} (enough : group.length ≤ turns) :
    (List.range turns).filterMap (fun turn => group[turn]?) = group := by
  induction group generalizing turns with
  | nil => simp
  | cons item group ih =>
    obtain ⟨fewer, rfl⟩ : ∃ fewer, turns = fewer + 1 := ⟨turns - 1, by simp at enough; omega⟩
    have rest : (List.range fewer).filterMap (fun turn => group[turn]?) = group :=
      ih (by simpa using enough)
    rw [List.range_succ_eq_map, List.filterMap_cons, List.filterMap_map]
    simpa [Function.comp_def] using rest

theorem flatMap_turns_perm (groups : List (List α)) {turns : Nat}
    (enough : ∀ group ∈ groups, group.length ≤ turns) :
    ((List.range turns).flatMap fun turn => groups.filterMap fun group => group[turn]?).Perm
      groups.flatten := by
  induction groups with
  | nil => simp
  | cons group groups ih =>
    have split : ∀ turn : Nat, (group :: groups).filterMap (fun group => group[turn]?) =
        group[turn]?.toList ++ groups.filterMap fun group => group[turn]? := by
      intro turn
      rw [List.filterMap_cons]
      cases group[turn]? <;> rfl
    have first : (List.range turns).flatMap (fun turn => group[turn]?.toList) = group := by
      rw [← List.filterMap_eq_flatMap_toList]
      exact filterMap_turns group (enough group List.mem_cons_self)
    simp only [split]
    refine (List.flatMap_append_perm _ _ _).symm.trans ?_
    rw [first, List.flatten_cons]
    exact (ih fun other member => enough other (List.mem_cons_of_mem _ member)).append_left group

theorem roundRobin_perm (groups : List (List α)) : (roundRobin groups).Perm groups.flatten :=
  flatMap_turns_perm groups fun group listed =>
    List.le_max?_getD_of_mem (List.mem_map.mpr ⟨group, listed, rfl⟩)

theorem exists_roundRobin_eq_heads (groups : List (List α)) :
    ∃ rest, roundRobin groups = groups.filterMap List.head? ++ rest := by
  unfold roundRobin
  cases longest : (groups.map List.length).max?.getD 0 with
  | zero =>
    have nothing : groups.filterMap List.head? = [] := by
      rw [List.filterMap_eq_nil_iff]
      intro group listed
      have bound : group.length ≤ 0 :=
        longest ▸ List.le_max?_getD_of_mem (List.mem_map.mpr ⟨group, listed, rfl⟩)
      rw [List.length_eq_zero_iff.mp (Nat.le_zero.mp bound)]
      rfl
    exact ⟨[], by simp [nothing]⟩
  | succ turns =>
    refine ⟨((List.range turns).map Nat.succ).flatMap fun turn =>
      groups.filterMap fun group => group[turn]?, ?_⟩
    simp only [List.range_succ_eq_map, List.flatMap_cons, List.head?_eq_getElem?]

theorem flatMap_groups_perm {κ : Type} [DecidableEq κ] (keyOf : α → κ) {keys : List κ}
    (distinct : keys.Nodup) {items : List α} (covered : ∀ item ∈ items, keyOf item ∈ keys) :
    (keys.flatMap fun key => items.filter fun item => keyOf item = key).Perm items := by
  induction keys generalizing items with
  | nil =>
    cases items with
    | nil => simp
    | cons item items => exact absurd (covered item List.mem_cons_self) (by simp)
  | cons key keys ih =>
    obtain ⟨notLater, distinct⟩ := List.nodup_cons.mp distinct
    let others := items.filter fun item => !decide (keyOf item = key)
    have coveredOthers : ∀ item ∈ others, keyOf item ∈ keys := by
      intro item member
      obtain ⟨listed, different⟩ := List.mem_filter.mp member
      exact (List.mem_cons.mp (covered item listed)).resolve_left (by simpa using different)
    have sameGroups : ∀ later ∈ keys, (items.filter fun item => keyOf item = later) =
        others.filter fun item => keyOf item = later := by
      intro later member
      rw [List.filter_filter]
      apply List.filter_congr
      intro item _
      by_cases same : keyOf item = later
      · have different : later ≠ key := fun equal => notLater (equal ▸ member)
        simp [same, different]
      · simp [same]
    rw [List.flatMap_cons, List.flatMap_congr sameGroups]
    exact ((ih distinct coveredOthers).append_left _).trans
      (List.filter_append_perm (fun item => decide (keyOf item = key)) items)

end

namespace Node

theorem sortByName_perm (nodes : List Node) : (sortByName nodes).Perm nodes :=
  List.mergeSort_perm _ _

theorem mem_sortByName_iff {node : Node} {nodes : List Node} : node ∈ sortByName nodes ↔ node ∈ nodes :=
  (sortByName_perm nodes).mem_iff

theorem sortByName_ascending {nodes : List Node} (distinct : (nodes.map Node.name).Nodup) :
    (sortByName nodes).Pairwise fun node later => node.name < later.name :=
  (Key.ascending_mergeSort Node.name distinct).imp of_decide_eq_true

theorem sortByName_sorted (nodes : List Node) :
    (sortByName nodes).Pairwise fun node later => ¬later.name < node.name :=
  (List.pairwise_mergeSort (Key.upTo_trans Node.name) (Key.upTo_total Node.name) nodes).imp
    fun notAfter => by simpa [Key.upTo, Key.before] using notAfter

theorem sortByName_filter_name (nodes : List Node) (name : Text) :
    (sortByName nodes).filter (fun node => node.name = name) =
      nodes.filter fun node => node.name = name := by
  let named := nodes.filter fun node => node.name = name
  have alike : named.Pairwise fun node other => Key.upTo Node.name node other = true := by
    apply List.pairwise_of_forall_mem_list
    intro node member other memberOther
    have sameName : node.name = other.name := by simp_all [named]
    simp [Key.upTo, sameName, LawfulKey.before_irrefl]
  have kept : named.Sublist (sortByName nodes) :=
    List.sublist_mergeSort (Key.upTo_trans Node.name) (Key.upTo_total Node.name) alike
      List.filter_sublist
  have within : named.Sublist ((sortByName nodes).filter fun node => node.name = name) := by
    simpa only [named, List.filter_filter, Bool.and_self] using
      kept.filter fun node => decide (node.name = name)
  exact (within.eq_of_length ((sortByName_perm nodes).filter _).length_eq.symm).symm

theorem not_name_lt_of_sorted {first : Node} {nodes : List Node}
    (sorted : (first :: nodes).Pairwise fun node later => ¬later.name < node.name) :
    ∀ node ∈ first :: nodes, ¬node.name < first.name :=
  List.forall_mem_cons.mpr ⟨List.lt_irrefl _, fun _ => List.rel_of_pairwise_cons sorted⟩

theorem mem_of_filter_name_eq {nodes others : List Node}
    (same : ∀ name, nodes.filter (fun node => node.name = name) =
      others.filter fun node => node.name = name) {node : Node} (member : node ∈ nodes) :
    node ∈ others := by
  have named : node ∈ nodes.filter fun other => other.name = node.name :=
    List.mem_filter.mpr ⟨member, by simp⟩
  rw [same] at named
  exact List.mem_of_mem_filter named

theorem eq_of_sorted {nodes others : List Node}
    (sorted : nodes.Pairwise fun node later => ¬later.name < node.name)
    (alsoSorted : others.Pairwise fun node later => ¬later.name < node.name)
    (same : ∀ name, nodes.filter (fun node => node.name = name) =
      others.filter fun node => node.name = name) : nodes = others := by
  induction nodes generalizing others with
  | nil =>
    refine (List.eq_nil_iff_forall_not_mem.mpr fun node member => ?_).symm
    exact absurd (mem_of_filter_name_eq (fun name => (same name).symm) member) List.not_mem_nil
  | cons node nodes ih =>
    cases others with
    | nil => exact absurd (mem_of_filter_name_eq same List.mem_cons_self) List.not_mem_nil
    | cons other others =>
      -- Each of the two first nodes is in the other list too, where no name is smaller.
      have listed : other ∈ node :: nodes :=
        mem_of_filter_name_eq (fun name => (same name).symm) List.mem_cons_self
      have alsoListed : node ∈ other :: others := mem_of_filter_name_eq same List.mem_cons_self
      have sameName : other.name = node.name := by
        rcases Std.lt_trichotomy other.name node.name with less | equal | greater
        · exact absurd less (not_name_lt_of_sorted sorted other listed)
        · exact equal
        · exact absurd greater (not_name_lt_of_sorted alsoSorted node alsoListed)
      obtain ⟨rfl, _⟩ : node = other ∧ _ := by simpa [sameName] using same node.name
      have rest : nodes = others := by
        refine ih sorted.tail alsoSorted.tail fun name => ?_
        have together := same name
        rw [List.filter_cons, List.filter_cons] at together
        split at together
        · exact (List.cons.inj together).2
        · exact together
      rw [rest]

theorem sortByName_filter {nodes : List Node} (distinct : (nodes.map Node.name).Nodup)
    (kept : Node → Bool) : sortByName (nodes.filter kept) = (sortByName nodes).filter kept :=
  Key.mergeSort_eq_of_perm Node.name
    ((Key.ascending_mergeSort Node.name distinct).sublist List.filter_sublist)
    ((sortByName_perm nodes).symm.filter kept)

theorem mem_zonesInOrder_iff {zoneOf : Node → Text} {nodes : List Node} {zone : Text} :
    zone ∈ zonesInOrder zoneOf nodes ↔ ∃ node ∈ nodes, zoneOf node = zone := by
  rw [zonesInOrder, Table.mem_keys_iff, KeySet.contains_ofList]
  exact List.mem_map

def zoneGroup (zoneOf : Node → Text) (nodes : List Node) (zone : Text) : List Node :=
  (sortByName nodes).filter fun node => zoneOf node = zone

def zonesInTurn (zoneOf : Node → Text) (nodes : List Node) : List Text :=
  (zonesInOrder zoneOf nodes).filter fun zone => !zone.isEmpty

theorem placementOrder_eq (zoneOf : Node → Text) (nodes : List Node) :
    placementOrder zoneOf nodes =
      roundRobin ((zonesInTurn zoneOf nodes).map (zoneGroup zoneOf nodes))
        ++ zoneGroup zoneOf nodes [] := rfl

theorem mem_zoneGroup_iff {zoneOf : Node → Text} {nodes : List Node} {zone : Text} {node : Node} :
    node ∈ zoneGroup zoneOf nodes zone ↔ node ∈ nodes ∧ zoneOf node = zone := by
  simp [zoneGroup, mem_sortByName_iff]

theorem mem_zonesInTurn_iff {zoneOf : Node → Text} {nodes : List Node} {zone : Text} :
    zone ∈ zonesInTurn zoneOf nodes ↔ zone ≠ [] ∧ ∃ node ∈ nodes, zoneOf node = zone := by
  rw [zonesInTurn, List.mem_filter, mem_zonesInOrder_iff]
  simp [and_comm]

theorem nodup_zonesInTurn (zoneOf : Node → Text) (nodes : List Node) :
    (zonesInTurn zoneOf nodes).Nodup :=
  (Table.keys_nodup _).filter _

theorem placementOrder_perm (zoneOf : Node → Text) (nodes : List Node) :
    (placementOrder zoneOf nodes).Perm nodes := by
  let zones := zonesInTurn zoneOf nodes ++ [[]]
  have distinct : zones.Nodup := by
    refine List.nodup_append.mpr ⟨nodup_zonesInTurn zoneOf nodes, by simp, ?_⟩
    intro zone inTurn other zoneless same
    exact (mem_zonesInTurn_iff.mp inTurn).1 (same.trans (List.mem_singleton.mp zoneless))
  have covered : ∀ node ∈ sortByName nodes, zoneOf node ∈ zones := by
    intro node member
    by_cases zoneless : zoneOf node = []
    · simp [zones, zoneless]
    · exact List.mem_append_left _ (mem_zonesInTurn_iff.mpr
        ⟨zoneless, node, mem_sortByName_iff.mp member, rfl⟩)
  calc placementOrder zoneOf nodes
      = roundRobin ((zonesInTurn zoneOf nodes).map (zoneGroup zoneOf nodes))
          ++ zoneGroup zoneOf nodes [] := placementOrder_eq zoneOf nodes
    _ |>.Perm (((zonesInTurn zoneOf nodes).map (zoneGroup zoneOf nodes)).flatten
          ++ zoneGroup zoneOf nodes []) := (roundRobin_perm _).append_right _
    _ = zones.flatMap (zoneGroup zoneOf nodes) := by simp [zones, List.flatMap_def]
    _ |>.Perm (sortByName nodes) := flatMap_groups_perm zoneOf distinct covered
    _ |>.Perm nodes := sortByName_perm nodes

theorem mem_placementOrder_iff {zoneOf : Node → Text} {nodes : List Node} {node : Node} :
    node ∈ placementOrder zoneOf nodes ↔ node ∈ nodes :=
  (placementOrder_perm zoneOf nodes).mem_iff

theorem placementOrder_of_zoneless {zoneOf : Node → Text} {nodes : List Node}
    (zoneless : ∀ node ∈ nodes, zoneOf node = []) : placementOrder zoneOf nodes = sortByName nodes := by
  have none : zonesInTurn zoneOf nodes = [] := by
    refine List.eq_nil_iff_forall_not_mem.mpr fun zone inTurn => ?_
    obtain ⟨named, node, member, rfl⟩ := mem_zonesInTurn_iff.mp inTurn
    exact named (zoneless node member)
  have all : zoneGroup zoneOf nodes [] = sortByName nodes := by
    refine List.filter_eq_self.mpr fun node member => ?_
    simpa using zoneless node (mem_sortByName_iff.mp member)
  rw [placementOrder_eq, none, all]
  rfl

def namedZones (zoneOf : Node → Text) (nodes : List Node) : Finset Text :=
  ((nodes.map zoneOf).filter (· ≠ [])).toFinset

@[simp] theorem mem_namedZones_iff {zoneOf : Node → Text} {nodes : List Node} {zone : Text} :
    zone ∈ namedZones zoneOf nodes ↔ zone ≠ [] ∧ ∃ node ∈ nodes, zoneOf node = zone := by
  simp [namedZones, and_comm]

theorem namedZones_eq_of_perm (zoneOf : Node → Text) {nodes others : List Node}
    (same : nodes.Perm others) : namedZones zoneOf nodes = namedZones zoneOf others := by
  ext zone
  simp only [mem_namedZones_iff, same.mem_iff]

theorem namedZones_append_of_known {zoneOf : Node → Text} {nodes : List Node} {node : Node}
    (known : zoneOf node = [] ∨ zoneOf node ∈ namedZones zoneOf nodes) :
    namedZones zoneOf (nodes ++ [node]) = namedZones zoneOf nodes := by
  ext zone
  simp only [mem_namedZones_iff, List.mem_append, List.mem_singleton] at known ⊢
  grind

theorem card_namedZones_append_of_new {zoneOf : Node → Text} {nodes : List Node} {node : Node}
    (zoned : zoneOf node ≠ []) (new : zoneOf node ∉ namedZones zoneOf nodes) :
    (namedZones zoneOf (nodes ++ [node])).card = (namedZones zoneOf nodes).card + 1 := by
  have grown : namedZones zoneOf (nodes ++ [node]) =
      insert (zoneOf node) (namedZones zoneOf nodes) := by
    ext zone
    simp only [mem_namedZones_iff, List.mem_append, List.mem_singleton, Finset.mem_insert]
    grind
  rw [grown, Finset.card_insert_of_notMem new]

/-- No zone comes for the first time after a node that brought none. -/
def NewZonesFirst (zoneOf : Node → Text) (order : List Node) : Prop :=
  ∀ earlier node later, order = earlier ++ node :: later → zoneOf node ≠ [] →
    zoneOf node ∉ namedZones zoneOf earlier → (namedZones zoneOf earlier).card = earlier.length

theorem NewZonesFirst.congr {zoneOf other : Node → Text} {order : List Node}
    (first : NewZonesFirst zoneOf order) (same : ∀ node ∈ order, zoneOf node = other node) :
    NewZonesFirst other order := by
  intro earlier node later split
  have sameEarlier : earlier.map zoneOf = earlier.map other :=
    List.map_congr_left fun node member => same node (split ▸ List.mem_append_left _ member)
  have sameHere : zoneOf node = other node :=
    same node (split ▸ List.mem_append_right _ List.mem_cons_self)
  have found := first earlier node later split
  rwa [sameHere, namedZones, sameEarlier] at found

section

variable {zoneOf : Node → Text} {nodes : List Node}

theorem map_zoneOf_heads {group : Text → List Node} {zones : List Text}
    (grouped : ∀ zone ∈ zones, group zone ≠ [] ∧ ∀ node ∈ group zone, zoneOf node = zone) :
    ((zones.map group).filterMap List.head?).map zoneOf = zones := by
  induction zones with
  | nil => rfl
  | cons zone zones ih =>
    obtain ⟨some, own⟩ := grouped zone List.mem_cons_self
    obtain ⟨first, rest, split⟩ := List.exists_cons_of_ne_nil some
    have later := ih fun other member => grouped other (List.mem_cons_of_mem _ member)
    simp only [List.map_cons, split, List.filterMap_cons, List.head?_cons, later]
    rw [own first (split ▸ List.mem_cons_self)]

/-- The order begins with a node of each zone. -/
theorem exists_placementOrder_eq_heads (zoneOf : Node → Text) (nodes : List Node) :
    ∃ heads rest, placementOrder zoneOf nodes = heads ++ rest ∧ (heads.map zoneOf).Nodup
      ∧ ∀ zone, zone ∈ heads.map zoneOf ↔ zone ∈ namedZones zoneOf nodes := by
  let groups := (zonesInTurn zoneOf nodes).map (zoneGroup zoneOf nodes)
  have heads : (groups.filterMap List.head?).map zoneOf = zonesInTurn zoneOf nodes := by
    apply map_zoneOf_heads
    intro zone inTurn
    obtain ⟨_, node, listed, sameZone⟩ := mem_zonesInTurn_iff.mp inTurn
    exact ⟨List.ne_nil_of_mem (mem_zoneGroup_iff.mpr ⟨listed, sameZone⟩),
      fun other inside => (mem_zoneGroup_iff.mp inside).2⟩
  obtain ⟨rest, split⟩ := exists_roundRobin_eq_heads groups
  refine ⟨groups.filterMap List.head?, rest ++ zoneGroup zoneOf nodes [], ?_, ?_, fun zone => ?_⟩
  · rw [placementOrder_eq, split, List.append_assoc]
  · rw [heads]
    exact nodup_zonesInTurn zoneOf nodes
  · rw [heads, mem_zonesInTurn_iff, mem_namedZones_iff]

theorem newZonesFirst_placementOrder (zoneOf : Node → Text) (nodes : List Node) :
    NewZonesFirst zoneOf (placementOrder zoneOf nodes) := by
  intro earlier node later split zoned new
  obtain ⟨heads, rest, order, distinct, cover⟩ := exists_placementOrder_eq_heads zoneOf nodes
  have within : earlier <+: heads := by
    rcases List.prefix_or_prefix_of_prefix (⟨_, split.symm⟩ : earlier <+: placementOrder zoneOf nodes)
      (⟨_, order.symm⟩ : heads <+: placementOrder zoneOf nodes) with fewer | more
    · exact fewer
    · -- All zones have come by then, also that of the node.
      have placed : node ∈ placementOrder zoneOf nodes :=
        split ▸ List.mem_append_right _ List.mem_cons_self
      have came := (cover (zoneOf node)).mpr (mem_namedZones_iff.mpr
        ⟨zoned, node, mem_placementOrder_iff.mp placed, rfl⟩)
      obtain ⟨head, member, sameZone⟩ := List.mem_map.mp came
      exact absurd (mem_namedZones_iff.mpr ⟨zoned, head, more.subset member, sameZone⟩) new
  have distinctEarlier : (earlier.map zoneOf).Nodup := distinct.sublist (within.sublist.map zoneOf)
  have named : ∀ zone ∈ earlier.map zoneOf, zone ≠ [] := fun zone member =>
    (mem_namedZones_iff.mp ((cover zone).mp ((within.sublist.map zoneOf).subset member))).1
  rw [namedZones, List.filter_eq_self.mpr (by simpa using named),
    List.toFinset_card_of_nodup distinctEarlier, List.length_map]

end

end Node
end ClusterTopology
