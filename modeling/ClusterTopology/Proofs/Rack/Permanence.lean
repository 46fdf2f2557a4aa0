import ClusterTopology.Proofs.Rack.Recording
import ClusterTopology.Proofs.Topology.Document

/-!
The record of racks over many passes. A pass places a node only when no rack is known for it, each
of these nodes once, and records it before the patch is offered; it takes no record back. So a node
is never recorded in two racks, and the rack of a recorded node stays, also when passes are broken
off, when nodes and labels change between them, and when the topology is written and read back.
-/

namespace ClusterTopology

namespace Racks

def Named (racks : Racks) : Prop := racks.contains [] = false

theorem Named.put {racks : Racks} (named : racks.Named) {rack : Text} (nonempty : rack ≠ [])
    (members : KeySet Text) : Named (Table.put racks rack members) := by
  unfold Named at named ⊢
  rw [Table.contains_put, named, Bool.or_false, decide_eq_false_iff_not]
  exact nonempty.symm

theorem freeName_ne_nil (racks : Racks) : racks.freeName ≠ [] := by
  simp [freeName, rackName, Text.ofString, Text.ofChars]

theorem Named.withFresh {racks : Racks} (named : racks.Named) (count : Nat) :
    (racks.withFresh count).Named := by
  induction count generalizing racks with
  | zero => exact named
  | succ count ih => exact ih (named.put racks.freeName_ne_nil .empty)

/-- A node is given a rack with a name, and the racks that are made for it have names, too. -/
theorem Named.place {racks : Racks} (named : racks.Named) (minimum : Int) (zones : Zones)
    (node : Node) :
    (racks.place minimum zones node).state.Named
      ∧ ∀ rack, (racks.place minimum zones node).result = .ok rack → rack ≠ [] := by
  have enough : (racks.withAtLeast minimum).Named := named.withFresh _
  cases least : leastPopulated
      (candidates zones (targetZone zones node) (racks.withAtLeast minimum)) with
  | some chosen =>
    rw [place_of_some least]
    refine ⟨enough, fun rack found => ?_⟩
    obtain rfl : chosen.1 = rack := Except.ok.inj found
    have listed : chosen ∈ (racks.withAtLeast minimum).entries := by
      have candidate := mem_of_leastPopulated least
      unfold candidates at candidate
      split at candidate
      · exact candidate
      · exact (List.mem_filter.mp candidate).1
    have there : (racks.withAtLeast minimum).contains chosen.1 = true :=
      Table.mem_keys_iff.mp (List.mem_map.mpr ⟨chosen, listed, rfl⟩)
    intro unnamed
    rw [unnamed, enough] at there
    exact absurd there (by simp)
  | none =>
    rw [place_of_none least]
    split
    · exact ⟨enough, fun rack found => absurd found (by simp [Outcome.failed])⟩
    · refine ⟨enough.put (freeName_ne_nil _) .empty, fun rack found => ?_⟩
      obtain rfl := Except.ok.inj found
      exact freeName_ne_nil _

theorem named_of_known {t : Topology Text} {nodes : List Node} {before : Racks}
    (labelled : ∀ node ∈ nodes, ∀ rack, node.NamesRack rack → rack ≠ [])
    (known : Racks.known t .empty nodes = .ok before) : before.Named := by
  unfold Named
  rw [Bool.eq_false_iff]
  intro unnamed
  obtain ⟨member, holds⟩ := inhabited_of_known known [] unnamed
  obtain ⟨node, listed, -, names | recorded | given⟩ := (holds_known_iff known [] member).mp holds
  · exact labelled node listed [] names rfl
  · exact recorded.1 rfl
  · obtain ⟨_, none, _⟩ := given
    exact absurd none (by simp)

end Racks

namespace Balance

theorem ne_nil_of_givenBy {α : Type} [Name α] (rules : BalanceRules) (nodes : List Node)
    {start : Balance α} (fresh : start.offered = []) (named : start.racks.Named) {rack node : Text}
    (given : GivenBy (start.placeNodes rules nodes).state.offered rack node) : rack ≠ [] := by
  let kept (balance : Balance α) : Prop :=
    balance.racks.Named ∧ ∀ rack node, GivenBy balance.offered rack node → rack ≠ []
  have ended : kept (start.placeNodes rules nodes).state := by
    apply placeNodes_invariant rules (motive := kept)
    · refine ⟨named, fun rack node given => ?_⟩
      obtain ⟨patch, offered, _⟩ := given
      rw [fresh] at offered
      exact absurd offered (by simp)
    · intro node _ balance before
      obtain ⟨chosenNamed, chosenFor⟩ := before.1.place rules.minimumRacks rules.zones node
      apply state_placeNode rules (motive := kept)
      · exact fun _ _ => ⟨chosenNamed, before.2⟩
      · intro chosen found
        have nonempty := chosenFor chosen found
        refine ⟨chosenNamed.put nonempty _, fun rack member given => ?_⟩
        rcases (givenBy_append_iff ..).mp given with earlier | last
        · exact before.2 rack member earlier
        · obtain rfl : chosen = rack := by simpa using last.2
          exact nonempty
  exact ended.2 rack node given

theorem Offers.rack_unique {α : Type} [Name α] {nodes : List Node}
    {pass : Outcome (Balance α) (List LabelPatch)} (offers : Offers nodes [] pass)
    (distinct : (nodes.map Node.name).Nodup) {rack other node : Text}
    (given : GivenBy pass.state.offered rack node)
    (again : GivenBy pass.state.offered other node) : other = rack := by
  rw [offers.remembered, List.nil_append] at given again
  obtain ⟨patch, offered, named, names⟩ := given
  obtain ⟨patchAgain, offeredAgain, namedAgain, namesAgain⟩ := again
  have once : ((offeredIn pass.events).map LabelPatch.node).Nodup :=
    distinct.sublist offers.inOrder.sublist
  obtain rfl : patchAgain = patch :=
    List.inj_on_of_nodup_map once offeredAgain offered (namedAgain.trans named.symm)
  exact Option.some.inj (namesAgain.symm.trans names)

end Balance

namespace Topology

/-- A point of a pass: the topology when the pass has gone through some of the nodes it places, in
the order in which it places them. -/
def PointOfPass (t : Topology Text) (nodes : List Node) (minimum : Int) (patcher : Patcher)
    (point : Topology Text) : Prop :=
  ∃ racks placed, Racks.known t .empty nodes = .ok racks
    ∧ placed <+: unplaced racks (Zones.ofNodes nodes) nodes
    ∧ point = (Balance.placeNodes ⟨minimum, Zones.ofNodes nodes, patcher⟩ placed
        ⟨racks, t, []⟩).state.topology

theorem pointOfPass_ensureRacks (t : Topology Text) (nodes : List Node) (minimum : Int)
    (patcher : Patcher) :
    t.PointOfPass nodes minimum patcher (t.ensureRacks nodes minimum patcher).state := by
  obtain ⟨racks, known, _⟩ := Racks.exists_known t .empty nodes
  refine ⟨racks, _, known, List.prefix_rfl, ?_⟩
  unfold ensureRacks balance
  rw [known]
  rfl

/-- Every node is recorded in one rack at most, and that rack has a name. -/
structure OneRackEach (t : Topology Text) : Prop where
  named : ∀ {rack node : Text}, t.records rackKey rack node = true → rack ≠ []
  single : ∀ {rack other node : Text}, t.records rackKey rack node = true →
    t.records rackKey other node = true → other = rack

section

variable {t point : Topology Text} {nodes : List Node} {minimum : Int} {patcher : Patcher}

theorem PointOfPass.records (pass : t.PointOfPass nodes minimum patcher point) {rack node : Text}
    (recorded : t.records rackKey rack node = true) : point.records rackKey rack node = true := by
  obtain ⟨racks, placed, _, _, rfl⟩ := pass
  rw [Balance.records_placeNodes_iff _ placed rfl]
  exact Or.inl recorded

theorem OneRackEach.recordedRack_eq (each : t.OneRackEach) {rack node : Text}
    (recorded : t.records rackKey rack node = true) : t.recordedRack node = .ok rack := by
  rw [recordedRack_eq_ok_iff]
  refine Or.inl ⟨recorded, fun other recordedOther smaller => ?_⟩
  rw [each.single recorded recordedOther] at smaller
  exact List.lt_irrefl _ smaller

theorem OneRackEach.records_iff (each : t.OneRackEach) {rack node : Text} :
    t.records rackKey rack node = true ↔ rack ≠ [] ∧ t.recordedRack node = .ok rack := by
  constructor
  · intro recorded
    exact ⟨each.named recorded, each.recordedRack_eq recorded⟩
  · intro found
    exact t.records_of_recordedRack found.2 found.1

theorem OneRackEach.not_records_of_mem_unplaced (each : t.OneRackEach) {racks : Racks}
    (known : Racks.known t .empty nodes = .ok racks) {node : Node}
    (unplaced : node ∈ unplaced racks (Zones.ofNodes nodes) nodes) (rack : Text) :
    ¬t.records rackKey rack node.name = true := by
  intro recorded
  obtain ⟨listed, nowhere⟩ := mem_unplaced_iff.mp unplaced
  exact nowhere rack ((Racks.holds_known_iff known rack node.name).mpr
    ⟨node, listed, rfl, Or.inr (Or.inl (each.records_iff.mp recorded))⟩)

/-- At every point of a pass each node is recorded in one rack at most, if it was so before. -/
theorem OneRackEach.pointOfPass (each : t.OneRackEach) (distinct : (nodes.map Node.name).Nodup)
    (labelled : ∀ node ∈ nodes, ∀ rack, node.NamesRack rack → rack ≠ [])
    (pass : t.PointOfPass nodes minimum patcher point) : point.OneRackEach := by
  obtain ⟨racks, placed, known, first, rfl⟩ := pass
  let rules : BalanceRules := ⟨minimum, Zones.ofNodes nodes, patcher⟩
  let start : Balance Text := ⟨racks, t, []⟩
  have offers : Balance.Offers placed [] (start.placeNodes rules placed) :=
    Balance.offers_placeNodes rules placed start
  have once : (placed.map Node.name).Nodup :=
    (nodup_unplaced distinct racks _).sublist (first.sublist.map Node.name)
  have notBefore : ∀ {rack other node},
      GivenBy (start.placeNodes rules placed).state.offered rack node →
        ¬t.records rackKey other node = true := by
    intro rack other node given
    rw [offers.remembered, List.nil_append] at given
    obtain ⟨patch, offered, rfl, _⟩ := given
    obtain ⟨listed, member, _, rfl⟩ := offers.formed patch offered
    exact each.not_records_of_mem_unplaced known (first.subset member) other
  have fresh : start.offered = [] := rfl
  have recorded := Balance.records_placeNodes_iff rules placed fresh
  constructor
  · intro rack node there
    rcases (recorded rack node).mp there with before | given
    · exact each.named before
    · exact Balance.ne_nil_of_givenBy rules placed fresh (Racks.named_of_known labelled known) given
  · intro rack other node there thereOther
    rcases (recorded rack node).mp there with before | given
    · rcases (recorded other node).mp thereOther with beforeOther | givenOther
      · exact each.single before beforeOther
      · exact absurd before (notBefore givenOther)
    · rcases (recorded other node).mp thereOther with beforeOther | givenOther
      · exact absurd beforeOther (notBefore given)
      · exact offers.rack_unique once given givenOther

end

/-- The topologies that passes lead to from a start. The nodes, their labels, the number of racks
and the answers may be different in every pass, a pass may be left at any of its points, and the
topology may be written and read back between passes. -/
inductive Reaches (start : Topology Text) : Topology Text → Prop
  | here : Reaches start start
  | within {reached point : Topology Text} (earlier : Reaches start reached) {nodes : List Node}
      (distinct : (nodes.map Node.name).Nodup)
      (labelled : ∀ node ∈ nodes, ∀ rack, node.NamesRack rack → rack ≠ [])
      {minimum : Int} {patcher : Patcher} (pass : reached.PointOfPass nodes minimum patcher point) :
      Reaches start point
  | reread {reached reread : Topology Text} {document : Json} (earlier : Reaches start reached)
      (written : reached.toDocument = .ok document) (read : ofDocument document = .ok reread) :
      Reaches start reread

/-- A topology that was written and read back is the same. -/
theorem eq_of_reread {t reread : Topology Text} {document : Json}
    (written : t.toDocument = .ok document) (read : ofDocument document = .ok reread) :
    reread = t := by
  obtain ⟨documented, same⟩ := t.exists_toDocument
  obtain rfl := Except.ok.inj (written.symm.trans documented)
  exact Except.ok.inj (read.symm.trans same)

theorem Reaches.oneRackEach {start reached : Topology Text} (reaches : start.Reaches reached)
    (each : start.OneRackEach) : reached.OneRackEach := by
  induction reaches with
  | here => exact each
  | within _ distinct labelled pass ih => exact ih.pointOfPass distinct labelled pass
  | reread _ written read ih => exact eq_of_reread written read ▸ ih

theorem Reaches.records {start reached : Topology Text} (reaches : start.Reaches reached)
    {rack node : Text} (recorded : start.records rackKey rack node = true) :
    reached.records rackKey rack node = true := by
  induction reaches with
  | here => exact recorded
  | within _ _ _ pass ih => exact pass.records ih
  | reread _ written read ih => exact eq_of_reread written read ▸ ih

theorem OneRackEach.exists_rackPatches {t : Topology Text} (each : t.OneRackEach)
    {nodes : List Node} (distinct : (nodes.map Node.name).Nodup) :
    ∃ patches, t.rackPatches nodes = .ok patches
      ∧ (patches.map LabelPatch.node).Pairwise (· < ·)
      ∧ ∀ patch, patch ∈ patches ↔ ∃ node ∈ nodes, ∃ rack,
          t.records rackKey rack node.name = true ∧ patch = .recordRack node rack := by
  obtain ⟨patches, made, member⟩ := t.exists_rackPatches nodes
  refine ⟨patches, made, ?_, ?_⟩
  · obtain rfl := Except.ok.inj (made.symm.trans (t.rackPatches_eq nodes))
    rw [List.pairwise_map, List.pairwise_filterMap]
    apply (Node.sortByName_ascending distinct).imp
    intro node later before patch ofNode other ofLater
    simp only [Option.ite_none_left_eq_some, Option.some.injEq] at ofNode ofLater
    rw [← ofNode.2, ← ofLater.2]
    exact before
  · intro patch
    simp only [member, each.records_iff, and_assoc]

/-- Along passes on a topology that began without recorded racks, a node is recorded in one rack at
most; a rack that was recorded for it at some point stays its recorded rack and its only one; and
the patches of the recorded racks are those of the listed nodes that are recorded, one for each, in
the order of their names. -/
theorem recorded_rack_unique_and_permanent {start middle last : Topology Text}
    (free : ∀ rack node, start.records rackKey rack node = false)
    (before : start.Reaches middle) (after : middle.Reaches last) :
    (∀ node rack other, last.records rackKey rack node = true →
        last.records rackKey other node = true → other = rack)
      ∧ (∀ node rack, middle.records rackKey rack node = true →
        last.recordedRack node = .ok rack
          ∧ ∀ other, last.records rackKey other node = true ↔ other = rack)
      ∧ ∀ nodes, (nodes.map Node.name).Nodup →
        ∃ patches, last.rackPatches nodes = .ok patches
          ∧ (patches.map LabelPatch.node).Pairwise (· < ·)
          ∧ ∀ patch, patch ∈ patches ↔ ∃ node ∈ nodes, ∃ rack,
              last.records rackKey rack node.name = true ∧ patch = .recordRack node rack := by
  have unrecorded : start.OneRackEach :=
    ⟨fun recorded => absurd recorded (by simp [free]),
      fun recorded => absurd recorded (by simp [free])⟩
  have each : last.OneRackEach := after.oneRackEach (before.oneRackEach unrecorded)
  refine ⟨fun _ _ _ => each.single, fun node rack recorded => ?_, fun _ => each.exists_rackPatches⟩
  have kept := after.records recorded
  exact ⟨each.recordedRack_eq kept, fun other => ⟨each.single kept, fun same => same ▸ kept⟩⟩

/-! A pass that is broken off at its second node, and one after it with other labels and one node
more. -/

def unplacedPair : List Node := [⟨"n0", .empty⟩, ⟨"n1", .empty⟩]

def relabelledTrio : List Node :=
  [⟨"n0", Table.empty.put rackKey "r"⟩, ⟨"n1", .empty⟩, ⟨"n2", .empty⟩]

def stoppedPass : Outcome (Topology Text) (List LabelPatch) :=
  (empty : Topology Text).ensureRacks unplacedPair 1 fun _ patch =>
    if patch.node = "n1" then .brokenOff "no connection" else .accepted

def laterPass : Outcome (Topology Text) (List LabelPatch) :=
  stoppedPass.state.ensureRacks relabelledTrio 1 fun _ _ => .accepted

theorem labelled_relabelledTrio :
    ∀ node ∈ relabelledTrio, ∀ rack, node.NamesRack rack → rack ≠ [] := by
  intro node listed rack names
  obtain ⟨label, -, found⟩ := names
  have labels : node.labels = .empty ∨ node.labels = Table.empty.put rackKey ("r" : Text) := by
    simp only [relabelledTrio, List.mem_cons, List.not_mem_nil, or_false] at listed
    rcases listed with rfl | rfl | rfl
    · exact Or.inr rfl
    · exact Or.inl rfl
    · exact Or.inl rfl
  rcases labels with same | same
  · simp [same] at found
  · rw [same, Table.find?_put] at found
    obtain ⟨-, rfl⟩ : label = rackKey ∧ ("r" : Text) = rack := by simpa using found
    decide

theorem reaches_stoppedPass : Reaches empty stoppedPass.state := by
  have labelled : ∀ node ∈ unplacedPair, ∀ rack, node.NamesRack rack → rack ≠ [] := by
    intro node listed rack names
    obtain ⟨label, -, found⟩ := names
    simp only [unplacedPair, List.mem_cons, List.not_mem_nil, or_false] at listed
    rcases listed with rfl | rfl <;> simp at found
  exact .within .here (by decide) labelled (pointOfPass_ensureRacks _ unplacedPair 1 _)

theorem reaches_laterPass : Reaches stoppedPass.state laterPass.state :=
  .within .here (by decide) labelled_relabelledTrio (pointOfPass_ensureRacks _ relabelledTrio 1 _)

/-- The node at which the first pass stopped keeps its rack in the second one. -/
theorem rack_kept_after_stop :
    stoppedPass.state.records rackKey "rack0" "n1" = true
      ∧ laterPass.state.recordedRack "n1" = .ok "rack0"
      ∧ ∃ patches, laterPass.state.rackPatches relabelledTrio = .ok patches
        ∧ .recordRack ⟨"n1", .empty⟩ "rack0" ∈ patches := by
  have recorded : stoppedPass.state.records rackKey "rack0" "n1" = true := by
    rw [stoppedPass, ensureRacks_of_sorted rfl (by decide) (by decide) (by decide)]
    rfl
  have free : ∀ rack node, (empty : Topology Text).records rackKey rack node = false :=
    fun _ _ => rfl
  obtain ⟨-, kept, declared⟩ :=
    recorded_rack_unique_and_permanent free reaches_stoppedPass reaches_laterPass
  obtain ⟨patches, made, -, member⟩ := declared relabelledTrio (by decide)
  obtain ⟨same, single⟩ := kept "n1" "rack0" recorded
  have recordedLater : laterPass.state.records rackKey "rack0" "n1" = true :=
    (single "rack0").mpr rfl
  have listed : (⟨"n1", .empty⟩ : Node) ∈ relabelledTrio := by simp [relabelledTrio]
  exact ⟨recorded, same, patches, made,
    (member _).mpr ⟨_, listed, "rack0", recordedLater, rfl⟩⟩

end Topology
end ClusterTopology
