import ClusterTopology.Proofs.Rack.Recording
import Mathlib.Data.List.Induction
import Mathlib.Data.Set.Subsingleton

/-!
Racks and zones. A node of a zone joins a rack only where a node of its zone stands or where none
stands, so a pass leaves the zones of every rack that was in use as they were, and a rack that comes
into use gets at most one zone. This holds wherever the pass ends, and from any racks it starts with.
-/

namespace ClusterTopology

def zonesIn (nodes : List Node) (inRack : Node → Prop) : Set Text :=
  { zone | zone ≠ [] ∧ ∃ node ∈ nodes, inRack node ∧ node.zone = zone }

theorem zonesIn_congr {nodes : List Node} {inRack inOther : Node → Prop}
    (same : ∀ node ∈ nodes, inRack node ↔ inOther node) :
    zonesIn nodes inRack = zonesIn nodes inOther := by
  ext zone
  simp only [zonesIn, Set.mem_ofPred_eq]
  grind

theorem Zones.find?_ofNodes_iff {nodes : List Node} (distinct : (nodes.map Node.name).Nodup)
    {name zone : Text} :
    (ofNodes nodes).find? name = some zone ↔ ∃ node ∈ nodes, node.name = name ∧ node.zone = zone := by
  have keys : ((nodes.map fun node => (node.name, node.zone)).map Prod.fst).Nodup := by
    rw [List.map_map]
    exact distinct
  rw [ofNodes, Table.find?_ofList_eq_some_iff keys]
  simp

theorem Racks.targetZone_of_listed {zones : Zones} {node : Node}
    (listed : zones.find? node.name = some node.zone) : targetZone zones node = node.zone := by
  simp [targetZone, listed]

/-- A patch puts its node into a rack in which nobody stands, or in which its zone stands already;
a node without a zone may join any rack. -/
def Topology.JoinsOwnZone (t : Topology Text) (nodes : List Node) (earlier : List LabelPatch)
    (patch : LabelPatch) : Prop :=
  ∀ rack, patch.rack? = some rack → ∀ node ∈ nodes, node.name = patch.node → node.zone ≠ [] →
    (∃ other ∈ nodes, t.Stands earlier rack other) → node.zone ∈ zonesIn nodes (t.Stands earlier rack)

def Topology.AllJoinOwnZone (t : Topology Text) (nodes : List Node) (offered : List LabelPatch) :
    Prop :=
  ∀ earlier patch later, offered = earlier ++ patch :: later → t.JoinsOwnZone nodes earlier patch

section

variable {t : Topology Text} {nodes : List Node} {offered : List LabelPatch}

theorem Topology.AllJoinOwnZone.append {patch : LabelPatch} (before : t.AllJoinOwnZone nodes offered)
    (last : t.JoinsOwnZone nodes offered patch) : t.AllJoinOwnZone nodes (offered ++ [patch]) := by
  intro earlier joining later split
  rcases List.eq_nil_or_concat later with rfl | ⟨rest, final, rfl⟩
  · obtain ⟨rfl, same⟩ := List.append_inj' split rfl
    obtain rfl := List.singleton_inj.mp same
    exact last
  · rw [List.concat_eq_append, ← List.cons_append, ← List.append_assoc] at split
    exact before earlier joining rest (List.append_inj' split rfl).1

theorem Topology.AllJoinOwnZone.of_append {patch : LabelPatch}
    (all : t.AllJoinOwnZone nodes (offered ++ [patch])) :
    t.AllJoinOwnZone nodes offered ∧ t.JoinsOwnZone nodes offered patch := by
  refine ⟨?_, all offered patch [] rfl⟩
  rintro earlier joining later rfl
  exact all earlier joining (later ++ [patch]) (by simp)

theorem mem_zonesIn_append_iff (patch : LabelPatch) (rack zone : Text) :
    zone ∈ zonesIn nodes (t.Stands (offered ++ [patch]) rack) ↔
      zone ∈ zonesIn nodes (t.Stands offered rack)
        ∨ (zone ≠ [] ∧ patch.rack? = some rack
          ∧ ∃ node ∈ nodes, node.name = patch.node ∧ node.zone = zone) := by
  simp only [zonesIn, Set.mem_ofPred_eq, Topology.stands_append_iff]
  grind

theorem zonesIn_append_of_used {patch : LabelPatch} {rack : Text}
    (joins : t.JoinsOwnZone nodes offered patch)
    (used : ∃ node ∈ nodes, t.Stands offered rack node) :
    zonesIn nodes (t.Stands (offered ++ [patch]) rack) = zonesIn nodes (t.Stands offered rack) := by
  ext zone
  rw [mem_zonesIn_append_iff]
  constructor
  · rintro (before | ⟨zoned, named, node, listed, sameNode, rfl⟩)
    · exact before
    · exact joins rack named node listed sameNode zoned used
  · exact Or.inl

theorem zonesIn_append_of_unused {patch : LabelPatch} {rack : Text}
    (distinct : (nodes.map Node.name).Nodup)
    (unused : ∀ node ∈ nodes, ¬t.Stands offered rack node) :
    (zonesIn nodes (t.Stands (offered ++ [patch]) rack)).Subsingleton := by
  have nothing : ∀ zone, zone ∉ zonesIn nodes (t.Stands offered rack) := by
    rintro zone ⟨_, node, listed, stands, _⟩
    exact unused node listed stands
  intro zone first other second
  rw [mem_zonesIn_append_iff] at first second
  obtain ⟨_, _, node, listed, sameNode, rfl⟩ := first.resolve_left (nothing zone)
  obtain ⟨_, _, twin, listedTwin, sameTwin, rfl⟩ := second.resolve_left (nothing other)
  rw [List.inj_on_of_nodup_map distinct listed listedTwin (sameNode.trans sameTwin.symm)]

/-- Patches that join their own zones leave the zones of every rack in use as they were, and bring
at most one zone into every other rack. -/
theorem zonesIn_of_allJoinOwnZone (distinct : (nodes.map Node.name).Nodup)
    (all : t.AllJoinOwnZone nodes offered) (rack : Text) :
    ((∃ node ∈ nodes, t.Stands [] rack node) →
        zonesIn nodes (t.Stands offered rack) = zonesIn nodes (t.Stands [] rack))
      ∧ ((∀ node ∈ nodes, ¬t.Stands [] rack node) →
        (zonesIn nodes (t.Stands offered rack)).Subsingleton) := by
  induction offered using List.reverseRecOn with
  | nil =>
    refine ⟨fun _ => rfl, fun unused => ?_⟩
    rintro zone ⟨_, node, listed, stands, _⟩
    exact absurd stands (unused node listed)
  | append_singleton offered patch ih =>
    have ⟨before, joins⟩ := all.of_append
    have ⟨kept, single⟩ := ih before
    by_cases used : ∃ node ∈ nodes, t.Stands offered rack node
    · rw [zonesIn_append_of_used joins used]
      exact ⟨kept, single⟩
    · have unused : ∀ node ∈ nodes, ¬t.Stands offered rack node :=
        fun node listed stands => used ⟨node, listed, stands⟩
      refine ⟨?_, fun _ => zonesIn_append_of_unused distinct unused⟩
      rintro ⟨node, listed, stands⟩
      exact absurd (Topology.stands_iff.mpr (Or.inl stands)) (unused node listed)

end

theorem Balance.joinsOwnZone_of_place {t : Topology Text} {nodes : List Node}
    (distinct : (nodes.map Node.name).Nodup) {racks : Racks} {offered : List LabelPatch}
    (holds : ∀ rack, ∀ node ∈ nodes, racks.Holds rack node.name ↔ t.Stands offered rack node)
    {minimum : Int} {node : Node} (listed : node ∈ nodes) {rack : Text}
    (chosen : (racks.place minimum (Zones.ofNodes nodes) node).result = .ok rack) :
    t.JoinsOwnZone nodes offered (.recordRack node rack) := by
  intro named sameRack twin listedTwin sameName zoned used
  obtain rfl : rack = named := by simpa using sameRack
  obtain rfl : twin = node := List.inj_on_of_nodup_map distinct listedTwin listed sameName
  have target : Racks.targetZone (Zones.ofNodes nodes) twin = twin.zone :=
    Racks.targetZone_of_listed ((Zones.find?_ofNodes_iff distinct).mpr ⟨twin, listed, rfl, rfl⟩)
  obtain ⟨other, listedOther, stands⟩ := used
  obtain ⟨found, inside, zoneOfFound⟩ := Racks.exists_sameZone_of_place chosen
    (target ▸ zoned) ((holds rack other listedOther).mpr stands)
  rw [target] at zoneOfFound
  obtain ⟨fellow, listedFellow, rfl, sameZone⟩ := (Zones.find?_ofNodes_iff distinct).mp zoneOfFound
  exact ⟨zoned, fellow, listedFellow, (holds rack fellow listedFellow).mp inside, sameZone⟩

/-- Placing listed nodes one after the other, from racks that hold the listed nodes where they stand,
leads to such racks again, and every patch joined a rack of its own zone. -/
theorem Topology.holds_placeNodes_iff_and_allJoinOwnZone {nodes placed : List Node}
    (distinct : (nodes.map Node.name).Nodup) (among : placed ⊆ nodes) {t : Topology Text}
    {before : Racks}
    (holdsBefore : ∀ rack, ∀ node ∈ nodes, before.Holds rack node.name ↔ t.Stands [] rack node)
    (minimum : Int) (patcher : Patcher) :
    let after := (Balance.placeNodes ⟨minimum, Zones.ofNodes nodes, patcher⟩ placed
      ⟨before, t, []⟩).state
    (∀ rack, ∀ node ∈ nodes,
        after.racks.Holds rack node.name ↔ t.Stands after.offered rack node)
      ∧ t.AllJoinOwnZone nodes after.offered := by
  intro after
  let kept (balance : Balance Text) : Prop :=
    (∀ rack, ∀ node ∈ nodes,
        balance.racks.Holds rack node.name ↔ t.Stands balance.offered rack node)
      ∧ t.AllJoinOwnZone nodes balance.offered
  apply Balance.placeNodes_invariant _ (motive := kept)
  · refine ⟨holdsBefore, fun earlier patch later split => ?_⟩
    exact absurd split (by simp)
  · intro node member balance ⟨holds, joined⟩
    have listed : node ∈ nodes := among member
    apply Balance.state_placeNode _ (motive := kept)
    · intro fault _
      refine ⟨fun rack other member => ?_, joined⟩
      rw [Racks.holds_place_iff]
      exact holds rack other member
    · intro rack chosen
      refine ⟨fun other fellow member => ?_,
        joined.append (Balance.joinsOwnZone_of_place distinct holds listed chosen)⟩
      simp only [Balance.given, Racks.holds_addNode_iff, Racks.holds_place_iff, stands_append_iff,
        holds other fellow member, LabelPatch.node_recordRack, LabelPatch.rack?_recordRack,
        Option.some.injEq]
      grind

theorem Topology.exists_sameName_stands_iff {nodes : List Node}
    (distinct : (nodes.map Node.name).Nodup) {t : Topology Text} {rack : Text} {node : Node}
    (listed : node ∈ nodes) :
    (∃ twin ∈ nodes, twin.name = node.name ∧ t.Stands [] rack twin) ↔ t.Stands [] rack node := by
  constructor
  · intro ⟨twin, listedTwin, sameName, stands⟩
    rwa [List.inj_on_of_nodup_map distinct listed listedTwin sameName.symm]
  · exact fun stands => ⟨node, listed, rfl, stands⟩

theorem Topology.holds_balance_iff_and_allJoinOwnZone {nodes : List Node}
    (distinct : (nodes.map Node.name).Nodup) (t : Topology Text) (minimum : Int)
    (patcher : Patcher) :
    (∀ rack, ∀ node ∈ nodes,
        (t.balance nodes minimum patcher).state.racks.Holds rack node.name ↔
          t.Stands (t.balance nodes minimum patcher).state.offered rack node)
      ∧ t.AllJoinOwnZone nodes (t.balance nodes minimum patcher).state.offered := by
  obtain ⟨before, holdsBefore, pass⟩ := t.exists_balance_eq nodes minimum patcher
  rw [pass]
  apply holds_placeNodes_iff_and_allJoinOwnZone distinct
  · exact fun node unplaced => (mem_unplaced_iff.mp unplaced).1
  · intro rack node listed
    rw [holdsBefore, exists_sameName_stands_iff distinct listed]

/-- The zones of a rack as the labels and the record show them after a pass lie between those of the
nodes that stood in it before and those of the nodes that the pass has in it. -/
theorem Topology.zonesIn_balance_subset {nodes : List Node} (distinct : (nodes.map Node.name).Nodup)
    (t : Topology Text) (minimum : Int) (patcher : Patcher) (rack : Text) :
    let after := (t.balance nodes minimum patcher).state
    zonesIn nodes (t.Stands [] rack) ⊆ zonesIn nodes (after.topology.Stands [] rack)
      ∧ zonesIn nodes (after.topology.Stands [] rack) ⊆ zonesIn nodes (t.Stands after.offered rack) := by
  intro after
  constructor
  · rintro zone ⟨zoned, node, listed, stands, sameZone⟩
    exact ⟨zoned, node, listed, stands_balance_of_stands distinct listed stands, sameZone⟩
  · rintro zone ⟨zoned, node, listed, stands, sameZone⟩
    exact ⟨zoned, node, listed, stands_of_stands_balance stands, sameZone⟩

/-- A pass never mixes zones, whether it ends or is broken off. The zones of a rack in which listed
nodes stood stay as they were; every other rack gets nodes of at most one zone; a rack with nodes of
at most one zone stays so; and no node of a zone joins a rack that is in use but not by its zone. It
makes no difference if the nodes of a rack are those that the pass has in it, or those that the
labels and the record show in it afterwards. -/
theorem Topology.balance_never_mixes_zones {nodes : List Node}
    (distinct : (nodes.map Node.name).Nodup) (t : Topology Text) (minimum : Int) (patcher : Patcher)
    (rack : Text) :
    let after := (t.balance nodes minimum patcher).state
    let zonesBefore := zonesIn nodes (t.Stands [] rack)
    let zonesHeld := zonesIn nodes fun node => after.racks.Holds rack node.name
    let zonesShown := zonesIn nodes (after.topology.Stands [] rack)
    ((∃ node ∈ nodes, t.Stands [] rack node) →
        zonesHeld = zonesBefore ∧ zonesShown = zonesBefore)
      ∧ ((∀ node ∈ nodes, ¬t.Stands [] rack node) →
        zonesHeld.Subsingleton ∧ zonesShown.Subsingleton)
      ∧ (zonesBefore.Subsingleton → zonesHeld.Subsingleton ∧ zonesShown.Subsingleton)
      ∧ (∀ node ∈ nodes, after.racks.Holds rack node.name ↔ t.Stands after.offered rack node)
      ∧ t.AllJoinOwnZone nodes after.offered := by
  intro after zonesBefore zonesHeld zonesShown
  obtain ⟨holds, joined⟩ := holds_balance_iff_and_allJoinOwnZone distinct t minimum patcher
  obtain ⟨kept, single⟩ := zonesIn_of_allJoinOwnZone distinct joined rack
  obtain ⟨stay, fewer⟩ := zonesIn_balance_subset distinct t minimum patcher rack
  have same : zonesHeld = zonesIn nodes (t.Stands after.offered rack) := by
    ext zone
    simp only [zonesHeld, zonesIn, Set.mem_ofPred_eq]
    grind
  rw [← same] at kept single fewer
  have unmixed : (∃ node ∈ nodes, t.Stands [] rack node) →
      zonesHeld = zonesBefore ∧ zonesShown = zonesBefore := by
    intro used
    exact ⟨kept used, Set.Subset.antisymm (fewer.trans (kept used).subset) stay⟩
  have pure : (∀ node ∈ nodes, ¬t.Stands [] rack node) →
      zonesHeld.Subsingleton ∧ zonesShown.Subsingleton := by
    intro unused
    exact ⟨single unused, (single unused).anti fewer⟩
  refine ⟨unmixed, pure, fun oneZone => ?_, holds rack, joined⟩
  by_cases used : ∃ node ∈ nodes, t.Stands [] rack node
  · obtain ⟨held, shown⟩ := unmixed used
    rw [held, shown]
    exact ⟨oneZone, oneZone⟩
  · exact pure fun node listed stands => used ⟨node, listed, stands⟩

def mixedRack : List Node := [
  ⟨"a1", .ofList [("topology.kubernetes.io/zone", "a"), ("example.org/rack", "shared")]⟩,
  ⟨"b1", .ofList [("topology.kubernetes.io/zone", "b"), ("example.org/rack", "shared")]⟩,
  ⟨"a2", .ofList [("topology.kubernetes.io/zone", "a")]⟩]

theorem stands_mixedRack :
    ∃ node ∈ mixedRack, (Topology.empty : Topology Text).Stands [] "shared" node :=
  ⟨_, List.mem_cons_self, Or.inl ⟨"example.org/rack", by decide, by decide⟩⟩

/-- The zones of a rack that is mixed from the start stay the same when the pass over its nodes is
broken off at the first patch. -/
theorem zones_kept_in_mixedRack :
    let patcher : Patcher := fun _ _ => .brokenOff "unreachable"
    (zonesIn mixedRack fun node =>
        ((Topology.empty : Topology Text).balance mixedRack 2 patcher).state.racks.Holds
          "shared" node.name)
      = zonesIn mixedRack ((Topology.empty : Topology Text).Stands [] "shared") :=
  ((Topology.balance_never_mixes_zones (by decide) .empty 2 _ "shared").1 stands_mixedRack).1

end ClusterTopology
