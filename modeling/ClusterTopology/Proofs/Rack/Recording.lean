import ClusterTopology.Proofs.Rack.Standing

/-!
What a pass records and offers. It records each node with the rack that its patch gives it, keeps
all it finds recorded, and touches nothing but the racks. Every patch it offers is accepted, except
the last one when the pass is broken off there.
-/

namespace ClusterTopology

theorem offeredIn_place (racks : Racks) (minimum : Int) (zones : Zones) (node : Node) :
    offeredIn (racks.place minimum zones node).events = []
      ∧ acceptedIn (racks.place minimum zones node).events = [] := by
  cases least : Racks.leastPopulated
      (Racks.candidates zones (Racks.targetZone zones node) (racks.withAtLeast minimum)) with
  | some chosen =>
    rw [Racks.place_of_some least]
    exact ⟨rfl, rfl⟩
  | none =>
    rw [Racks.place_of_none least]
    split <;> exact ⟨rfl, rfl⟩

namespace Balance

section

variable {α : Type} [Name α]

theorem offeredIn_assignmentEvents (balance : Balance α) (node : Node) (rack : Text) :
    offeredIn (balance.assignmentEvents node rack) = []
      ∧ acceptedIn (balance.assignmentEvents node rack) = [] := by
  unfold assignmentEvents
  split <;> exact ⟨rfl, rfl⟩

variable (rules : BalanceRules)

theorem placeNode_offers {balance : Balance α} {node : Node} {rack : Text}
    (found : (balance.racks.place rules.minimumRacks rules.zones node).result = .ok rack) :
    offeredIn (balance.placeNode rules node).events = [.recordRack node rack]
      ∧ (balance.placeNode rules node).state.offered = balance.offered ++ [.recordRack node rack]
      ∧ (((balance.placeNode rules node).result = .ok (.recordRack node rack)
            ∧ acceptedIn (balance.placeNode rules node).events = [.recordRack node rack])
          ∨ ((∃ fault, (balance.placeNode rules node).result = .error fault)
            ∧ acceptedIn (balance.placeNode rules node).events = [])) := by
  have placed := offeredIn_place balance.racks rules.minimumRacks rules.zones node
  have assigned := balance.offeredIn_assignmentEvents node rack
  rw [placeNode_of_ok rules found]
  simp only [offeredIn_append, acceptedIn_append, placed, assigned, List.nil_append]
  refine ⟨rfl, rfl, ?_⟩
  cases accepted : (rules.patcher balance.offered (.recordRack node rack)).isAccepted with
  | true => exact Or.inl ⟨PatchAnswer.result_of_isAccepted accepted, rfl⟩
  | false => exact Or.inr ⟨PatchAnswer.result_of_not_isAccepted _ accepted, rfl⟩

theorem placeNode_offers_nothing {balance : Balance α} {node : Node} {fault : Fault}
    (none : (balance.racks.place rules.minimumRacks rules.zones node).result = .error fault) :
    offeredIn (balance.placeNode rules node).events = []
      ∧ acceptedIn (balance.placeNode rules node).events = []
      ∧ (balance.placeNode rules node).state.offered = balance.offered
      ∧ (balance.placeNode rules node).result = .error fault := by
  have placed := offeredIn_place balance.racks rules.minimumRacks rules.zones node
  rw [placeNode_of_error rules none]
  exact ⟨placed.1, placed.2, rfl, rfl⟩

/-- What is known of the patches of a pass. Of the nodes given, in their order, the first ones were
offered a patch. If the pass succeeded, all were, and all patches were accepted; if it failed, all
patches were accepted but the last one at most. -/
structure Offers (nodes : List Node) (before : List LabelPatch)
    (pass : Outcome (Balance α) (List LabelPatch)) : Prop where
  remembered : pass.state.offered = before ++ offeredIn pass.events
  inOrder : (offeredIn pass.events).map LabelPatch.node <+: nodes.map Node.name
  formed : ∀ patch ∈ offeredIn pass.events, ∃ node ∈ nodes, ∃ rack, patch = .recordRack node rack
  succeeded : ∀ patches, pass.result = .ok patches →
    offeredIn pass.events = patches ∧ acceptedIn pass.events = patches
      ∧ patches.map LabelPatch.node = nodes.map Node.name
  failed : ∀ fault, pass.result = .error fault →
    offeredIn pass.events = acceptedIn pass.events
      ∨ ∃ patch, offeredIn pass.events = acceptedIn pass.events ++ [patch]

section

variable {rules} {node : Node} {nodes : List Node} {balance : Balance α}

theorem offers_cons_of_stuck {fault : Fault}
    (chosen : (balance.racks.place rules.minimumRacks rules.zones node).result = .error fault) :
    Offers (node :: nodes) balance.offered (balance.placeNodes rules (node :: nodes)) := by
  obtain ⟨offered, accepted, kept, failure⟩ := placeNode_offers_nothing rules chosen
  rw [placeNodes_cons_of_error rules nodes failure]
  refine ⟨?_, ?_, ?_, ?_, ?_⟩
  · simp [offered, kept]
  · simp [offered]
  · simp [offered]
  · exact fun _ success => absurd success (by simp)
  · exact fun _ _ => Or.inl (offered.trans accepted.symm)

theorem offers_cons_of_refused {rack : Text} {fault : Fault}
    (offered : offeredIn (balance.placeNode rules node).events = [.recordRack node rack])
    (remembered : (balance.placeNode rules node).state.offered =
      balance.offered ++ [.recordRack node rack])
    (failure : (balance.placeNode rules node).result = .error fault)
    (accepted : acceptedIn (balance.placeNode rules node).events = []) :
    Offers (node :: nodes) balance.offered (balance.placeNodes rules (node :: nodes)) := by
  rw [placeNodes_cons_of_error rules nodes failure]
  refine ⟨?_, ?_, ?_, ?_, ?_⟩
  · simp [remembered, offered]
  · simp [offered]
  · intro patch listed
    simp only [offered, List.mem_singleton] at listed
    exact ⟨node, List.mem_cons_self, rack, listed⟩
  · exact fun _ success => absurd success (by simp)
  · exact fun _ _ => Or.inr ⟨.recordRack node rack, by simp [offered, accepted]⟩

theorem Offers.cons_of_accepted {rack : Text}
    (offered : offeredIn (balance.placeNode rules node).events = [.recordRack node rack])
    (remembered : (balance.placeNode rules node).state.offered =
      balance.offered ++ [.recordRack node rack])
    (success : (balance.placeNode rules node).result = .ok (.recordRack node rack))
    (accepted : acceptedIn (balance.placeNode rules node).events = [.recordRack node rack])
    (rest : Offers nodes (balance.placeNode rules node).state.offered
      ((balance.placeNode rules node).state.placeNodes rules nodes)) :
    Offers (node :: nodes) balance.offered (balance.placeNodes rules (node :: nodes)) := by
  rw [placeNodes_cons_of_ok rules nodes success]
  refine ⟨?_, ?_, ?_, ?_, ?_⟩
  · simp [rest.remembered, offered, remembered]
  · simpa [offered] using rest.inOrder
  · intro patch listed
    simp only [offeredIn_append, offered, List.singleton_append, List.mem_cons] at listed
    rcases listed with rfl | later
    · exact ⟨node, List.mem_cons_self, rack, rfl⟩
    · obtain ⟨other, member, formed⟩ := rest.formed patch later
      exact ⟨other, List.mem_cons_of_mem _ member, formed⟩
  · intro patches ended
    cases result : ((balance.placeNode rules node).state.placeNodes rules nodes).result with
    | error fault =>
      rw [result] at ended
      exact absurd ended (by simp [Except.map])
    | ok later =>
      rw [result] at ended
      obtain rfl : .recordRack node rack :: later = patches := Except.ok.inj ended
      obtain ⟨offeredLater, acceptedLater, names⟩ := rest.succeeded later result
      simp [offered, accepted, offeredLater, acceptedLater, names]
  · intro fault ended
    cases result : ((balance.placeNode rules node).state.placeNodes rules nodes).result with
    | ok later =>
      rw [result] at ended
      exact absurd ended (by simp [Except.map])
    | error fault =>
      simp only [offeredIn_append, acceptedIn_append, offered, accepted, List.append_assoc]
      rcases rest.failed fault result with same | ⟨patch, last⟩
      · exact Or.inl (by rw [same])
      · exact Or.inr ⟨patch, by rw [last]⟩

end

theorem offers_placeNodes (nodes : List Node) (balance : Balance α) :
    Offers nodes balance.offered (balance.placeNodes rules nodes) := by
  induction nodes generalizing balance with
  | nil =>
    refine ⟨by simp [placeNodes, Outcome.done], by simp [placeNodes, Outcome.done],
      by simp [placeNodes, Outcome.done], ?_, ?_⟩
    · rintro patches success
      obtain rfl : [] = patches := Except.ok.inj success
      exact ⟨rfl, rfl, rfl⟩
    · exact fun _ failure => absurd failure (by simp [placeNodes, Outcome.done])
  | cons node nodes ih =>
    cases chosen : (balance.racks.place rules.minimumRacks rules.zones node).result with
    | error fault => exact offers_cons_of_stuck chosen
    | ok rack =>
      obtain ⟨offered, remembered, ⟨success, accepted⟩ | ⟨⟨fault, failure⟩, accepted⟩⟩ :=
        placeNode_offers rules chosen
      · exact (ih _).cons_of_accepted offered remembered success accepted
      · exact offers_cons_of_refused offered remembered failure accepted

theorem find?_placeNodes_of_ne (nodes : List Node) (start : Balance α) {key : Text}
    (different : key ≠ rackKey) :
    (start.placeNodes rules nodes).state.topology.table.find? key
      = start.topology.table.find? key := by
  let kept (balance : Balance α) : Prop :=
    balance.topology.table.find? key = start.topology.table.find? key
  apply placeNodes_invariant rules (motive := kept) rfl
  intro node _ balance before
  apply state_placeNode rules (motive := kept)
  · exact fun _ _ => before
  · intro rack _
    exact (Topology.find?_addNode_of_ne _ _ _ different).trans before

end

theorem records_placeNodes_iff (rules : BalanceRules) (nodes : List Node) {start : Balance Text}
    (fresh : start.offered = []) (rack node : Text) :
    (start.placeNodes rules nodes).state.topology.records rackKey rack node = true ↔
      start.topology.records rackKey rack node = true
        ∨ GivenBy (start.placeNodes rules nodes).state.offered rack node := by
  let kept (balance : Balance Text) : Prop :=
    balance.topology.records rackKey rack node = true ↔
      start.topology.records rackKey rack node = true ∨ GivenBy balance.offered rack node
  apply placeNodes_invariant rules (motive := kept)
  · simp [kept, fresh, GivenBy]
  · intro other _ balance before
    apply state_placeNode rules (motive := kept)
    · exact fun _ _ => before
    · intro chosen _
      simp only [kept, given, Topology.records_addNode_iff, givenBy_append_iff,
        LabelPatch.node_recordRack, LabelPatch.rack?_recordRack, Option.some.injEq, Name.ofText,
        id, before.eq]
      grind

end Balance

namespace Topology

/-! A whole pass over a list of nodes. -/

theorem offers_of_known {t : Topology Text} {nodes : List Node} {before : Racks}
    (known : Racks.known t .empty nodes = .ok before) (minimum : Int) (patcher : Patcher) :
    Balance.Offers (unplaced before (Zones.ofNodes nodes) nodes) []
      (t.balance nodes minimum patcher) := by
  rw [balance_of_known known]
  exact Balance.offers_placeNodes _ _ ⟨before, t, []⟩

section

variable (t : Topology Text) (nodes : List Node) (minimum : Int) (patcher : Patcher)

theorem exists_offers : ∃ placed : List Node,
    (∀ node, node ∈ placed ↔ node ∈ nodes
      ∧ ∀ rack, ∀ twin ∈ nodes, twin.name = node.name → ¬t.Stands [] rack twin)
    ∧ Balance.Offers placed [] (t.balance nodes minimum patcher) := by
  obtain ⟨before, known, _⟩ := Racks.exists_known t .empty nodes
  refine ⟨unplaced before (Zones.ofNodes nodes) nodes, fun node => ?_,
    offers_of_known known minimum patcher⟩
  simp only [mem_unplaced_iff, Racks.holds_known_iff known, not_exists, not_and]

theorem records_ensureRacks_iff (rack node : Text) :
    (t.ensureRacks nodes minimum patcher).state.records rackKey rack node = true ↔
      t.records rackKey rack node = true
        ∨ GivenBy (offeredIn (t.ensureRacks nodes minimum patcher).events) rack node := by
  obtain ⟨placed, _, offers⟩ := t.exists_offers nodes minimum patcher
  obtain ⟨before, _, pass⟩ := t.exists_balance_eq nodes minimum patcher
  have recorded := Balance.records_placeNodes_iff ⟨minimum, Zones.ofNodes nodes, patcher⟩
    (unplaced before (Zones.ofNodes nodes) nodes) (rfl : (⟨before, t, []⟩ : Balance Text).offered = [])
    rack node
  rw [← pass, offers.remembered] at recorded
  exact recorded

theorem find?_ensureRacks_of_ne {key : Text} (different : key ≠ rackKey) :
    (t.ensureRacks nodes minimum patcher).state.table.find? key = t.table.find? key := by
  obtain ⟨before, _, pass⟩ := t.exists_balance_eq nodes minimum patcher
  unfold ensureRacks
  rw [pass]
  exact Balance.find?_placeNodes_of_ne _ _ _ different

theorem isEmpty_ensureRacks {t : Topology Text} (known : t.isEmpty = false) :
    (t.ensureRacks nodes minimum patcher).state.isEmpty = false := by
  obtain ⟨before, _, pass⟩ := t.exists_balance_eq nodes minimum patcher
  unfold ensureRacks
  rw [pass]
  let kept (balance : Balance Text) : Prop := balance.topology.isEmpty = false
  apply Balance.placeNodes_invariant _ (motive := kept) known
  intro node _ balance before
  apply Balance.state_placeNode _ (motive := kept)
  · exact fun _ _ => before
  · exact fun rack _ => isEmpty_put _ _ _

theorem formed_of_mem_offeredIn {patch : LabelPatch}
    (offered : patch ∈ offeredIn (t.ensureRacks nodes minimum patcher).events) :
    ∃ node ∈ nodes, (∀ rack, ¬t.Stands [] rack node) ∧ ∃ rack, patch = .recordRack node rack := by
  obtain ⟨placed, isPlaced, offers⟩ := t.exists_offers nodes minimum patcher
  obtain ⟨node, member, formed⟩ := offers.formed patch offered
  obtain ⟨listed, nowhere⟩ := (isPlaced node).mp member
  exact ⟨node, listed, fun rack => nowhere rack node listed rfl, formed⟩

variable {t nodes minimum patcher}

theorem exists_listed_of_holds_balance {rack member : Text}
    (inside : (t.balance nodes minimum patcher).state.racks.Holds rack member) :
    ∃ node ∈ nodes, node.name = member := by
  obtain ⟨before, holds, pass⟩ := t.exists_balance_eq nodes minimum patcher
  obtain ⟨placed, isPlaced, offers⟩ := t.exists_offers nodes minimum patcher
  rw [pass, Balance.holds_placeNodes_iff _ rfl, ← pass, holds] at inside
  rcases inside with ⟨node, listed, sameName, _⟩ | ⟨patch, offered, rfl, _⟩
  · exact ⟨node, listed, sameName⟩
  · rw [offers.remembered, List.nil_append] at offered
    obtain ⟨node, member, _, rfl⟩ := offers.formed patch offered
    exact ⟨node, ((isPlaced node).mp member).1, rfl⟩

theorem exists_accepted_of_ok (distinct : (nodes.map Node.name).Nodup) {patches : List LabelPatch}
    (success : (t.ensureRacks nodes minimum patcher).result = .ok patches) {node : Node}
    (listed : node ∈ nodes) (nowhere : ∀ rack, ¬t.Stands [] rack node) :
    ∃ patch ∈ acceptedIn (t.ensureRacks nodes minimum patcher).events, patch.node = node.name := by
  obtain ⟨placed, isPlaced, offers⟩ := t.exists_offers nodes minimum patcher
  obtain ⟨_, accepted, names⟩ := offers.succeeded patches success
  have member : node ∈ placed := by
    refine (isPlaced node).mpr ⟨listed, fun rack twin listedTwin sameName stands => ?_⟩
    rw [List.inj_on_of_nodup_map distinct listedTwin listed sameName] at stands
    exact nowhere rack stands
  have named : node.name ∈ patches.map LabelPatch.node := by
    rw [names]
    exact List.mem_map.mpr ⟨node, member, rfl⟩
  obtain ⟨patch, member, sameName⟩ := List.mem_map.mp named
  exact ⟨patch, accepted ▸ member, sameName⟩

theorem accepted_or_last_of_offered {patch : LabelPatch}
    (offered : patch ∈ offeredIn (t.ensureRacks nodes minimum patcher).events) :
    patch ∈ acceptedIn (t.ensureRacks nodes minimum patcher).events
      ∨ ((∃ fault, (t.ensureRacks nodes minimum patcher).result = .error fault)
        ∧ offeredIn (t.ensureRacks nodes minimum patcher).events =
          acceptedIn (t.ensureRacks nodes minimum patcher).events ++ [patch]) := by
  obtain ⟨placed, _, offers⟩ := t.exists_offers nodes minimum patcher
  cases result : (t.ensureRacks nodes minimum patcher).result with
  | ok patches =>
    obtain ⟨all, accepted, _⟩ := offers.succeeded patches result
    exact Or.inl (accepted.symm ▸ all ▸ offered)
  | error fault =>
    rcases offers.failed fault result with same | ⟨last, split⟩
    · exact Or.inl (same ▸ offered)
    · rcases List.mem_append.mp (split ▸ offered) with accepted | final
      · exact Or.inl accepted
      · obtain rfl := List.mem_singleton.mp final
        exact Or.inr ⟨⟨fault, rfl⟩, split⟩

theorem recordedRack_ensureRacks_of_stands (distinct : (nodes.map Node.name).Nodup) {node : Node}
    (listed : node ∈ nodes) {rack : Text} (stands : t.Stands [] rack node) :
    (t.ensureRacks nodes minimum patcher).state.recordedRack node.name =
      t.recordedRack node.name := by
  apply recordedRack_congr
  intro other
  rw [Bool.eq_iff_iff, records_ensureRacks_iff, or_iff_left]
  rintro ⟨patch, offered, sameName, _⟩
  obtain ⟨placed, listedPlaced, nowhere, _, rfl⟩ := t.formed_of_mem_offeredIn nodes minimum patcher offered
  obtain rfl : placed = node := List.inj_on_of_nodup_map distinct listedPlaced listed sameName
  exact nowhere rack stands

theorem stands_of_stands_balance {node : Node} {rack : Text}
    (stands : (t.balance nodes minimum patcher).state.topology.Stands [] rack node) :
    t.Stands (t.balance nodes minimum patcher).state.offered rack node := by
  obtain ⟨placed, _, offers⟩ := t.exists_offers nodes minimum patcher
  have grows := t.records_ensureRacks_iff nodes minimum patcher
  change ∀ rack node, (t.balance nodes minimum patcher).state.topology.records rackKey rack node =
    true ↔ _ at grows
  rcases stands with names | ⟨named, recorded⟩ | ⟨_, none, _⟩
  · exact Or.inl names
  · refine Or.inr ?_
    have least := (recordedRack_eq_ok_iff _ _ _).mp recorded
    rcases least with ⟨records, least⟩ | ⟨empty, _⟩
    · rcases (grows rack node.name).mp records with before | given
      · refine Or.inl ⟨named, (t.recordedRack_eq_ok_iff _ _).mpr (Or.inl ⟨before, ?_⟩)⟩
        intro other recordedOther
        exact least other ((grows other node.name).mpr (Or.inl recordedOther))
      · rw [offers.remembered]
        exact Or.inr given
    · exact absurd empty named
  · exact absurd none (by simp)

theorem stands_balance_of_stands (distinct : (nodes.map Node.name).Nodup) {node : Node}
    (listed : node ∈ nodes) {rack : Text} (stands : t.Stands [] rack node) :
    (t.balance nodes minimum patcher).state.topology.Stands [] rack node := by
  have kept : (t.balance nodes minimum patcher).state.topology.recordedRack node.name =
      t.recordedRack node.name := recordedRack_ensureRacks_of_stands distinct listed stands
  unfold Stands at stands ⊢
  rw [kept]
  exact stands

end

/-! The patches of all recorded racks. -/

theorem rackPatches_eq (t : Topology Text) (nodes : List Node) :
    t.rackPatches nodes = .ok ((Node.sortByName nodes).filterMap fun node =>
      if (t.rackOf node.name).isEmpty then none
      else some (.recordRack node (t.rackOf node.name))) := by
  unfold rackPatches
  simp only [recordedRack_eq, bind, Except.bind, pure, Except.pure]
  induction Node.sortByName nodes with
  | nil => rfl
  | cons node nodes ih =>
    rw [List.filterMapM_cons, ih, List.filterMap_cons]
    by_cases unnamed : (t.rackOf node.name).isEmpty
    · simp only [unnamed, ↓reduceIte]
      rfl
    · simp only [unnamed]
      rfl

theorem exists_rackPatches (t : Topology Text) (nodes : List Node) :
    ∃ declared, t.rackPatches nodes = .ok declared ∧ ∀ patch, patch ∈ declared ↔
      ∃ node ∈ nodes, ∃ rack, rack ≠ [] ∧ t.recordedRack node.name = .ok rack
        ∧ patch = .recordRack node rack := by
  refine ⟨_, t.rackPatches_eq nodes, fun patch => ?_⟩
  simp only [List.mem_filterMap, Node.mem_sortByName_iff, recordedRack_eq, Except.ok.injEq,
    List.isEmpty_iff, Option.ite_none_left_eq_some, Option.some.injEq]
  grind

end Topology
end ClusterTopology
