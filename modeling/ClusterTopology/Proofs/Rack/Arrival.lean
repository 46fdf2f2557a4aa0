import ClusterTopology.Proofs.Dict
import ClusterTopology.Proofs.Status.Reordering

/-!
A pass over dictionaries in the order in which they were filled: the labels of the nodes, the racks
that it works on, and the racks that are recorded. Most of them are sorted by key before they are
read. The racks are sorted only after the candidates were picked from them; the labels that name racks
and the nodes of a rack are not sorted at all. Such a pass does what the pass over tables does, so
nothing hangs on the order in which a dictionary was filled.
-/

namespace ClusterTopology

theorem Table.mergeSort_eq_entries {ν : Type} (t : Table Text ν) {arrived : List (Text × ν)}
    (same : arrived.Perm t.entries) : arrived.mergeSort (Key.upTo Prod.fst) = t.entries :=
  Key.mergeSort_eq_of_perm Prod.fst t.ordered same

/-- A node with its labels as they arrived. -/
structure Arrival where
  node : Node
  labels : List (Text × Text)
  same : labels.Perm node.labels.entries

def Arrival.zone (arrival : Arrival) : Text :=
  (recognizedKeys.findSome? fun key =>
    (arrival.labels.mergeSort (Key.upTo Prod.fst)).findSome? fun (label, value) =>
      if key.occursIn label && Text.occursIn "zone" label then some value else none).getD []

theorem Arrival.zone_eq (arrival : Arrival) : arrival.zone = arrival.node.zone := by
  unfold zone
  rw [Table.mergeSort_eq_entries _ arrival.same]
  rfl

/-! The racks, as a dictionary. -/

namespace Dict

def ofLabels (racks : Dict) (arrival : Arrival) : Dict :=
  (arrival.labels.filter fun (label, _) => Racks.isRackLabel label).foldl
    (fun racks (_, rack) => racks.add rack arrival.node.name) racks

def rackOf (record : Dict) (node : Text) : Text :=
  ((record.sorted.find? fun (_, nodes) => nodes.contains node).map Prod.fst).getD []

def known (record : Dict) : Dict → List Arrival → Dict
  | racks, [] => racks
  | racks, arrival :: arrivals =>
    let recorded := record.rackOf arrival.node.name
    let labelled := racks.ofLabels arrival
    known record (if recorded.isEmpty then labelled else labelled.add recorded arrival.node.name)
      arrivals

def freeName (racks : Dict) : Text :=
  Racks.rackName
    (((List.range (racks.length + 1)).find? fun number =>
      !(racks.lookup (Racks.rackName number)).isSome).getD racks.length)

def withFresh : (count : Nat) → Dict → Dict
  | 0, racks => racks
  | count + 1, racks => withFresh count (racks ++ [(racks.freeName, [])])

def withAtLeast (minimum : Int) (racks : Dict) : Dict :=
  withFresh (minimum - racks.length).toNat racks

/-- The racks that a node of a zone may go to, picked as they stand and then sorted. -/
def candidates (zones : Zones) (zone : Text) (racks : Dict) : Dict :=
  sorted (racks.filter fun (_, members) =>
    zone.isEmpty || (members.isEmpty || members.any fun member => zones.find? member = some zone))

def leastPopulated : Dict → Option Text
  | [] => none
  | first :: racks =>
    some (racks.foldl (fun chosen rack =>
      if rack.2.length < chosen.2.length then rack else chosen) first).1

def place (racks : Dict) (minimum : Int) (zones : Zones) (node : Node) : Outcome Dict Text :=
  let racks := racks.withAtLeast minimum
  let zone := Racks.targetZone zones node
  match leastPopulated (candidates zones zone racks) with
  | some rack => .done racks rack
  | none =>
    if zone.isEmpty then .failed racks .noRack
    else
      let rack := racks.freeName
      ⟨racks ++ [(rack, [])], [.rackOpened zone rack node.name], .ok rack⟩

end Dict

/-- What a pass works on, with the recorded racks in place of the whole record. -/
structure DictBalance where
  racks : Dict
  record : Dict
  offered : List LabelPatch

namespace DictBalance

def assign (balance : DictBalance) (node : Node) (rack : Text) : Outcome DictBalance Unit :=
  ⟨{ balance with
      racks := balance.racks.add rack node.name
      record := balance.record.add rack node.name },
    (if (balance.record.lookup rack).isSome then [] else [.rackFound node.name rack])
      ++ [.rackAssigned node.name rack], .ok ()⟩

def offer (balance : DictBalance) (patcher : Patcher) (patch : LabelPatch) :
    Outcome DictBalance LabelPatch :=
  let after := { balance with offered := balance.offered ++ [patch] }
  match patcher balance.offered patch with
  | .accepted => ⟨after, [.patchOffered patch true], .ok patch⟩
  | .refused node reason => ⟨after, [.patchOffered patch false], .error (.patch node reason none)⟩
  | .brokenOff reason =>
    ⟨after, [.patchOffered patch false], .error (.patch patch.node reason (some reason))⟩

def placeNode (rules : BalanceRules) (balance : DictBalance) (node : Node) :
    Outcome DictBalance LabelPatch :=
  let placed := balance.racks.place rules.minimumRacks rules.zones node
  (placed.within fun racks => { balance with racks := racks }).andThen fun balance rack =>
    (balance.assign node rack).andThen fun balance _ =>
      balance.offer rules.patcher (.recordRack node rack)

def placeNodes (rules : BalanceRules) :
    List Node → DictBalance → Outcome DictBalance (List LabelPatch)
  | [], balance => .done balance []
  | node :: nodes, balance =>
    (balance.placeNode rules node).andThen fun balance patch =>
      (placeNodes rules nodes balance).andThen fun balance patches =>
        .done balance (patch :: patches)

def ensureRacks (record : Dict) (arrivals : List Arrival) (minimumRacks : Int) (patcher : Patcher) :
    Outcome Dict (List LabelPatch) :=
  let racks := Dict.known record [] arrivals
  let zones : Zones := .ofList (arrivals.map fun arrival => (arrival.node.name, arrival.zone))
  let unplaced := Node.placementOrder (fun node => (zones.find? node.name).getD [])
    ((arrivals.map Arrival.node).filter fun node =>
      !racks.any fun (_, members) => members.contains node.name)
  (placeNodes ⟨minimumRacks, zones, patcher⟩ unplaced ⟨racks, record, []⟩).within DictBalance.record

end DictBalance

structure Outcome.Follows {σ τ α : Type} (related : σ → τ → Prop) (outcome : Outcome σ α)
    (other : Outcome τ α) : Prop where
  state : related outcome.state other.state
  events : outcome.events = other.events
  result : outcome.result = other.result

namespace Outcome.Follows

variable {σ τ α β : Type} {related : σ → τ → Prop} {outcome : Outcome σ α} {other : Outcome τ α}

theorem andThen (follows : outcome.Follows related other) {next : σ → α → Outcome σ β}
    {nextOther : τ → α → Outcome τ β}
    (later : ∀ {state : σ} {stateOther : τ} (value : α), related state stateOther →
      (next state value).Follows related (nextOther stateOther value)) :
    (outcome.andThen next).Follows related (other.andThen nextOther) := by
  obtain ⟨state, events, result⟩ := outcome
  obtain ⟨stateOther, _, _⟩ := other
  obtain ⟨relatedNow, rfl, rfl⟩ := follows
  cases result with
  | error fault => exact ⟨relatedNow, rfl, rfl⟩
  | ok value =>
    have after := later value relatedNow
    exact ⟨after.state, congrArg (events ++ ·) after.events, after.result⟩

theorem within {σ' τ' : Type} {put : σ → σ'} {putOther : τ → τ'} {lifted : σ' → τ' → Prop}
    (follows : outcome.Follows related other)
    (keeps : ∀ {state : σ} {stateOther : τ}, related state stateOther →
      lifted (put state) (putOther stateOther)) :
    (outcome.within put).Follows lifted (other.within putOther) :=
  ⟨keeps follows.state, follows.events, follows.result⟩

end Outcome.Follows

namespace Racks

theorem addNode_comm (racks : Racks) (rack other node member : Text) :
    (racks.addNode rack node).addNode other member =
      (racks.addNode other member).addNode rack node := by
  have insert_comm (set : KeySet Text) :
      (set.insert node).insert member = (set.insert member).insert node := by
    apply KeySet.ext_contains
    intro key
    simp only [KeySet.contains_insert, Bool.or_left_comm]
  apply Table.ext_find?
  intro key
  unfold addNode
  by_cases same : other = rack
  · subst same
    simp only [Table.find?_put, ↓reduceIte, Option.getD_some, insert_comm]
    split <;> rfl
  · simp only [Table.find?_put, same, Ne.symm same, ↓reduceIte]
    by_cases here : key = rack <;> by_cases there : key = other <;> simp_all

theorem ofLabels_eq_of_perm (racks : Racks) {node : Node} {arrived : List (Text × Text)}
    (same : arrived.Perm node.labels.entries) :
    (arrived.filter fun (label, _) => isRackLabel label).foldl
      (fun racks (_, rack) => racks.addNode rack node.name) racks = racks.ofLabels node :=
  (same.filter _).foldl_eq' (fun _ _ _ _ racks => racks.addNode_comm _ _ _ _) racks

theorem admits_eq_of_perm (zones : Zones) (zone : Text) {members : KeySet Text}
    {arrived : List Text} (same : arrived.Perm members.keys) :
    (arrived.isEmpty || arrived.any fun member => zones.find? member = some zone) =
      admits zones zone members := by
  have empty : members.isEmpty = members.keys.isEmpty := by
    simp [Table.isEmpty, Table.keys]
  rw [admits, empty, same.isEmpty_eq, same.any_eq]

theorem candidates_eq_of_perm (zones : Zones) (zone : Text) {racks : Racks}
    {arrived : List (Text × KeySet Text)} (same : arrived.Perm racks.entries) :
    (arrived.filter fun (_, members) => zone.isEmpty || admits zones zone members).mergeSort
      (Key.upTo Prod.fst) = candidates zones zone racks := by
  have picked : candidates zones zone racks =
      racks.entries.filter fun (_, members) => zone.isEmpty || admits zones zone members := by
    unfold candidates
    cases zone.isEmpty <;> simp
  rw [picked]
  exact Key.mergeSort_eq_of_perm Prod.fst (racks.ordered.sublist List.filter_sublist)
    (same.filter _)

/-- The search for the least populated rack may start from the front as well. -/
theorem leastPopulated_cons_cons (first second : Text × KeySet Text)
    (racks : List (Text × KeySet Text)) :
    leastPopulated (first :: second :: racks) =
      leastPopulated ((if second.2.size < first.2.size then second else first) :: racks) := by
  simp only [leastPopulated]
  cases leastPopulated racks with
  | none =>
    dsimp only
    split <;> rfl
  | some other => grind

end Racks

namespace Dict

namespace StandsFor

variable {dict record : Dict} {racks : Racks}

theorem addNode (stands : dict.StandsFor racks) (rack node : Text) :
    (dict.add rack node).StandsFor (racks.addNode rack node) :=
  stands.add rack node

theorem ofLabels (stands : dict.StandsFor racks) (arrival : Arrival) :
    (dict.ofLabels arrival).StandsFor (racks.ofLabels arrival.node) := by
  rw [← racks.ofLabels_eq_of_perm arrival.same]
  unfold Dict.ofLabels
  generalize arrival.labels.filter (fun (label, _) => Racks.isRackLabel label) = labels
  induction labels generalizing dict racks with
  | nil => exact stands
  | cons label labels ih => exact ih (stands.addNode label.2 arrival.node.name)

theorem sets_sorted (dict : Dict) : dict.sorted.sets = dict.sets.mergeSort (Key.upTo Prod.fst) :=
  List.map_mergeSort fun _ _ _ _ => rfl

theorem map_fst_sorted (stands : dict.StandsFor racks) : dict.sorted.map Prod.fst = racks.keys := by
  have ordered : dict.sorted.sets = racks.entries := by
    rw [sets_sorted, Table.mergeSort_eq_entries _ stands.perm]
  calc dict.sorted.map Prod.fst
    _ = dict.sorted.sets.map Prod.fst := by rw [sets, List.map_map]; rfl
    _ = racks.keys := by rw [ordered]; rfl

theorem contains_of_mem (stands : dict.StandsFor racks) {entry : Text × List Text}
    (listed : entry ∈ dict) (node : Text) :
    ((racks.find? entry.1).getD .empty).contains node = entry.2.contains node := by
  rw [← stands.same, (lookup_eq_some_iff stands.once).mpr listed, Option.map_some, Option.getD_some,
    Bool.eq_iff_iff, KeySet.contains_ofList, List.contains_iff_mem]

theorem any_contains_iff (stands : dict.StandsFor racks) (node : Text) :
    (dict.any fun (_, members) => members.contains node) = true ↔ node ∈ racks.nodes := by
  have listed : node ∈ dict.sets.flatMap (fun entry => entry.2.keys) ↔ node ∈ racks.nodes :=
    (stands.perm.flatMap_right _).mem_iff
  rw [← listed]
  simp [sets, List.mem_flatMap, Table.mem_keys_iff, KeySet.contains_ofList]

theorem rackOf_eq {t : Topology Text} (stands : record.StandsFor (t.valuesOf rackKey))
    (node : Text) : record.rackOf node = t.rackOf node := by
  have agree : ∀ entry ∈ record.sorted,
      (entry.2.contains node) = t.records rackKey entry.1 node := by
    intro entry listed
    exact (stands.contains_of_mem (List.mem_mergeSort.mp listed) node).symm
  unfold Dict.rackOf Topology.rackOf
  rw [← stands.map_fst_sorted, List.find?_map, ← List.head?_filter, ← List.head?_filter,
    List.filter_congr agree]
  rfl

theorem known {t : Topology Text} (standsRecord : record.StandsFor (t.valuesOf rackKey))
    (stands : dict.StandsFor racks) (arrivals : List Arrival) :
    ∃ before, Racks.known t racks (arrivals.map Arrival.node) = .ok before
      ∧ (Dict.known record dict arrivals).StandsFor before := by
  induction arrivals generalizing dict racks with
  | nil => exact ⟨racks, rfl, stands⟩
  | cons arrival arrivals ih =>
    have labelled := stands.ofLabels arrival
    unfold Dict.known
    simp only [List.map_cons, Racks.known, t.recordedRack_eq, ← standsRecord.rackOf_eq, bind,
      Except.bind]
    apply ih
    split
    · exact labelled
    · exact labelled.addNode _ _

theorem freeName_eq (stands : dict.StandsFor racks) : dict.freeName = racks.freeName := by
  unfold Dict.freeName Racks.freeName
  simp only [stands.length_eq, stands.isSome_lookup]

theorem withFresh (stands : dict.StandsFor racks) (count : Nat) :
    (dict.withFresh count).StandsFor (racks.withFresh count) := by
  induction count generalizing dict racks with
  | zero => exact stands
  | succ count ih =>
    apply ih
    rw [stands.freeName_eq]
    exact stands.concat racks.contains_freeName

theorem withAtLeast (stands : dict.StandsFor racks) (minimum : Int) :
    (dict.withAtLeast minimum).StandsFor (racks.withAtLeast minimum) := by
  unfold Dict.withAtLeast Racks.withAtLeast
  rw [stands.length_eq]
  exact stands.withFresh _

theorem candidates_eq (stands : dict.StandsFor racks) (zones : Zones) (zone : Text) :
    (dict.candidates zones zone).sets = racks.candidates zones zone := by
  have picked : (dict.filter fun (_, members) =>
        zone.isEmpty || (members.isEmpty || members.any fun member => zones.find? member = some zone)) =
      dict.filter fun (_, members) =>
        zone.isEmpty || Racks.admits zones zone (KeySet.ofList members) := by
    apply List.filter_congr
    intro entry listed
    dsimp only
    rw [Racks.admits_eq_of_perm zones zone (keys_ofList_perm (stands.distinct entry listed))]
  unfold Dict.candidates
  rw [sets_sorted, picked, ← Racks.candidates_eq_of_perm zones zone stands.perm, sets, sets,
    List.filter_map]
  rfl

end StandsFor

theorem leastPopulated_sets_cons {first : Text × List Text} {racks : Dict}
    (distinct : ∀ rack ∈ first :: racks, rack.2.Nodup) :
    (Racks.leastPopulated (sets (first :: racks))).map Prod.fst = leastPopulated (first :: racks) := by
  induction racks generalizing first with
  | nil => rfl
  | cons second racks ih =>
    obtain ⟨one, two, rest⟩ : first.2.Nodup ∧ second.2.Nodup ∧ ∀ rack ∈ racks, rack.2.Nodup := by
      simpa using distinct
    let better := if second.2.length < first.2.length then second else first
    have distinctBetter : better.2.Nodup := by
      unfold better
      split <;> assumption
    have chosen : (better.1, KeySet.ofList better.2) =
        if (KeySet.ofList second.2).size < (KeySet.ofList first.2).size
          then (second.1, KeySet.ofList second.2) else (first.1, KeySet.ofList first.2) := by
      rw [size_ofList one, size_ofList two]
      unfold better
      split <;> rfl
    calc (Racks.leastPopulated (sets (first :: second :: racks))).map Prod.fst
      _ = (Racks.leastPopulated (sets (better :: racks))).map Prod.fst := by
        apply congrArg (Option.map Prod.fst)
        refine (Racks.leastPopulated_cons_cons _ _ _).trans ?_
        rw [← chosen]
        rfl
      _ = leastPopulated (better :: racks) := ih (List.forall_mem_cons.mpr ⟨distinctBetter, rest⟩)

theorem leastPopulated_sets {racks : Dict} (distinct : ∀ rack ∈ racks, rack.2.Nodup) :
    (Racks.leastPopulated racks.sets).map Prod.fst = racks.leastPopulated := by
  cases racks with
  | nil => rfl
  | cons first racks => exact leastPopulated_sets_cons distinct

theorem StandsFor.place {dict : Dict} {racks : Racks} (stands : dict.StandsFor racks) (minimum : Int)
    (zones : Zones) (node : Node) :
    (dict.place minimum zones node).Follows StandsFor (racks.place minimum zones node) := by
  have grown := stands.withAtLeast minimum
  let zone := Racks.targetZone zones node
  have distinct : ∀ rack ∈ (dict.withAtLeast minimum).candidates zones zone, rack.2.Nodup :=
    fun rack listed => grown.distinct rack
      (List.mem_of_mem_filter (List.mem_mergeSort.mp listed))
  have chosen : (Racks.leastPopulated
      ((racks.withAtLeast minimum).candidates zones zone)).map Prod.fst =
        leastPopulated ((dict.withAtLeast minimum).candidates zones zone) := by
    rw [← grown.candidates_eq]
    exact leastPopulated_sets distinct
  unfold Dict.place Racks.place
  simp only [show Racks.targetZone zones node = zone from rfl, ← chosen]
  cases Racks.leastPopulated ((racks.withAtLeast minimum).candidates zones zone) with
  | some rack => exact ⟨grown, rfl, rfl⟩
  | none =>
    simp only [Option.map_none, grown.freeName_eq]
    split
    · exact ⟨grown, rfl, rfl⟩
    · exact ⟨grown.concat (racks.withAtLeast minimum).contains_freeName, rfl, rfl⟩

end Dict

namespace DictBalance

structure StandsFor (balance : DictBalance) (other : Balance Text) : Prop where
  racks : balance.racks.StandsFor other.racks
  record : balance.record.StandsFor (other.topology.valuesOf rackKey)
  offered : balance.offered = other.offered

variable {balance : DictBalance} {other : Balance Text} (rules : BalanceRules)

theorem StandsFor.assign (stands : balance.StandsFor other) (node : Node) (rack : Text) :
    (balance.assign node rack).Follows StandsFor (other.record node rack) := by
  have recorded : (other.topology.addNode rackKey rack node.name).valuesOf rackKey =
      Racks.addNode (other.topology.valuesOf rackKey) rack node.name := by
    unfold Topology.valuesOf
    rw [Topology.addNode, Topology.putValues, Table.find?_put_self]
    rfl
  refine ⟨⟨stands.racks.addNode rack node.name, ?_, stands.offered⟩, ?_, rfl⟩
  · exact recorded ▸ stands.record.addNode rack node.name
  · unfold DictBalance.assign Balance.record
    rw [stands.record.isSome_lookup]
    rfl

theorem StandsFor.offer (stands : balance.StandsFor other) (patcher : Patcher) (patch : LabelPatch) :
    (balance.offer patcher patch).Follows StandsFor (other.offer patcher patch) := by
  have after : StandsFor { balance with offered := balance.offered ++ [patch] }
      { other with offered := other.offered ++ [patch] } :=
    ⟨stands.racks, stands.record, congrArg (· ++ [patch]) stands.offered⟩
  unfold DictBalance.offer Balance.offer
  rw [stands.offered] at after ⊢
  cases patcher other.offered patch <;> exact ⟨after, rfl, rfl⟩

theorem StandsFor.placeNode (stands : balance.StandsFor other) (node : Node) :
    (balance.placeNode rules node).Follows StandsFor (other.placeNode rules node) := by
  have placed := stands.racks.place rules.minimumRacks rules.zones node
  unfold DictBalance.placeNode Balance.placeNode
  apply Outcome.Follows.andThen
  · exact placed.within fun racks => ⟨racks, stands.record, stands.offered⟩
  · intro balance other rack stands
    apply Outcome.Follows.andThen (stands.assign node rack)
    intro balance other _ stands
    exact stands.offer rules.patcher _

theorem StandsFor.placeNodes (stands : balance.StandsFor other) (nodes : List Node) :
    (placeNodes rules nodes balance).Follows StandsFor (Balance.placeNodes rules nodes other) := by
  induction nodes generalizing balance other with
  | nil => exact ⟨stands, rfl, rfl⟩
  | cons node nodes ih =>
    apply Outcome.Follows.andThen (stands.placeNode rules node)
    intro balance other patch stands
    apply Outcome.Follows.andThen (ih stands)
    intro balance other patches stands
    exact ⟨stands, rfl, rfl⟩

/-- A pass over dictionaries does what the pass over tables does: it offers the same patches, reports
the same, comes to the same result, and leaves the same racks recorded. -/
theorem ensureRacks_follows {record : Dict} {t : Topology Text}
    (stands : record.StandsFor (t.valuesOf rackKey)) (arrivals : List Arrival) (minimum : Int)
    (patcher : Patcher) :
    (ensureRacks record arrivals minimum patcher).Follows
      (fun record (t : Topology Text) => record.StandsFor (t.valuesOf rackKey))
      (t.ensureRacks (arrivals.map Arrival.node) minimum patcher) := by
  obtain ⟨before, known, standsBefore⟩ := stands.known Dict.standsFor_nil arrivals
  have zones : Table.ofList (arrivals.map fun arrival => (arrival.node.name, arrival.zone)) =
      Zones.ofNodes (arrivals.map Arrival.node) := by
    simp only [Zones.ofNodes, List.map_map, Arrival.zone_eq]
    rfl
  have absent : ∀ node : Node, ((Dict.known record [] arrivals).any fun (_, members) =>
      members.contains node.name) = before.nodes.contains node.name := by
    intro node
    rw [Bool.eq_iff_iff, List.contains_iff_mem]
    exact standsBefore.any_contains_iff node.name
  unfold ensureRacks Topology.ensureRacks Topology.balance Topology.unplaced
  simp only [known, zones, absent]
  apply Outcome.Follows.within (StandsFor.placeNodes _ ⟨standsBefore, stands, rfl⟩ _)
  intro balance other stands
  exact stands.record

/-- So a pass comes to the same in whatever order the nodes are listed and the dictionaries were
filled. -/
theorem ensureRacks_ignores_order {record other : Dict} {t : Topology Text}
    (stands : record.StandsFor (t.valuesOf rackKey)) (standsOther : other.StandsFor (t.valuesOf rackKey))
    {arrivals others : List Arrival} (distinct : ((arrivals.map Arrival.node).map Node.name).Nodup)
    (reordered : (arrivals.map Arrival.node).Perm (others.map Arrival.node)) (minimum : Int)
    (patcher : Patcher) :
    let first := ensureRacks record arrivals minimum patcher
    let second := ensureRacks other others minimum patcher
    first.events = second.events ∧ first.result = second.result
      ∧ ∃ after, first.state.StandsFor after ∧ second.state.StandsFor after := by
  intro first second
  have follows := ensureRacks_follows stands arrivals minimum patcher
  have followsOther := ensureRacks_follows standsOther others minimum patcher
  rw [← t.ensureRacks_eq_of_perm minimum patcher distinct reordered] at followsOther
  exact ⟨follows.events.trans followsOther.events.symm, follows.result.trans followsOther.result.symm,
    _, follows.state, followsOther.state⟩

end DictBalance

end ClusterTopology
