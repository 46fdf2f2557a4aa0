import ClusterTopology.Proofs.Rack.Order

/-!
The turns in which zones place their nodes. The turn of a node is its rank by name among the nodes of
its zone, and in one turn the zones come in their order. Whatever has been placed of the zoned nodes,
a zone that is not through yet has had at most one turn less than any other zone.
-/

namespace ClusterTopology

section

variable {α : Type}

theorem countP_eq_of_getElem? {before : α → α → Bool} {items : List α} {place : Nat} {item : α}
    (ordered : items.Pairwise fun first later => before first later = true ∧ before later first = false)
    (irreflexive : before item item = false) (found : items[place]? = some item) :
    items.countP (fun other => before other item) = place := by
  induction items generalizing place with
  | nil => exact absurd found (by simp)
  | cons first items ih =>
    have ⟨front, ordered⟩ := List.pairwise_cons.mp ordered
    cases place with
    | zero =>
      have here : first = item := by simpa using found
      subst here
      have none : items.countP (fun other => before other first) = 0 :=
        List.countP_eq_zero.mpr fun other member => by simp [(front other member).2]
      simp [irreflexive, none]
    | succ place =>
      have found : items[place]? = some item := by simpa using found
      have counted : before first item = true := (front item (List.mem_of_getElem? found)).1
      rw [List.countP_cons, ih ordered found, if_pos counted]

theorem exists_last_of_countP_pos {counts : α → Bool} {items : List α}
    (positive : 0 < items.countP counts) :
    ∃ front item back, items = front ++ item :: back ∧ counts item = true
      ∧ items.countP counts = front.countP counts + 1 := by
  induction items with
  | nil => exact absurd positive (by simp)
  | cons first items ih =>
    by_cases more : 0 < items.countP counts
    · obtain ⟨front, item, back, split, counted, number⟩ := ih more
      refine ⟨first :: front, item, back, by rw [split, List.cons_append], counted, ?_⟩
      rw [List.countP_cons, List.countP_cons, number]
      omega
    · have counted : counts first = true := by
        by_contra other
        rw [List.countP_cons, if_neg other] at positive
        omega
      refine ⟨[], first, items, rfl, counted, ?_⟩
      rw [List.countP_cons, if_pos counted, List.countP_nil]
      omega

theorem pairwise_roundRobin {groups : List (List α)} (turnOf : α → Nat) (front : α → α → Prop)
    (turns : ∀ group ∈ groups, ∀ turn item, group[turn]? = some item → turnOf item = turn)
    (ordered : groups.Pairwise fun group later => ∀ item ∈ group, ∀ other ∈ later, front item other) :
    (roundRobin groups).Pairwise fun item later =>
      turnOf item < turnOf later ∨ (turnOf item = turnOf later ∧ front item later) := by
  have turn_of_taken : ∀ turn item, item ∈ groups.filterMap (fun group => group[turn]?) →
      turnOf item = turn := by
    intro turn item taken
    obtain ⟨group, listed, found⟩ := List.mem_filterMap.mp taken
    exact turns group listed turn item found
  unfold roundRobin
  apply List.pairwise_flatMap.mpr
  constructor
  · intro turn _
    apply List.pairwise_filterMap.mpr
    refine ordered.imp_of_mem ?_
    intro group later listed listedLater fronts item found other foundLater
    refine Or.inr ⟨?_, ?_⟩
    · rw [turns group listed turn item found, turns later listedLater turn other foundLater]
    · exact fronts item (List.mem_of_getElem? found) other (List.mem_of_getElem? foundLater)
  · refine List.pairwise_lt_range.imp ?_
    intro turn later earlier item taken other takenLater
    apply Or.inl
    calc turnOf item = turn := turn_of_taken turn item taken
      _ < later := earlier
      _ = turnOf other := (turn_of_taken later other takenLater).symm

end

namespace Node

/-- How many nodes of the zone of a node have a smaller name. -/
def rankInZone (zoneOf : Node → Text) (nodes : List Node) (node : Node) : Nat :=
  nodes.countP fun other => zoneOf other = zoneOf node ∧ other.name < node.name

/-- A node takes its turn before another one: by the rank in the zone, and of one rank by the zone. -/
def TurnsBefore (zoneOf : Node → Text) (nodes : List Node) (node later : Node) : Prop :=
  rankInZone zoneOf nodes node < rankInZone zoneOf nodes later
    ∨ (rankInZone zoneOf nodes node = rankInZone zoneOf nodes later ∧ zoneOf node < zoneOf later)

def countInZone (zoneOf : Node → Text) (zone : Text) (nodes : List Node) : Nat :=
  nodes.countP fun node => zoneOf node = zone

section

variable {zoneOf : Node → Text} {nodes : List Node}

theorem ascending_zoneGroup (distinct : (nodes.map Node.name).Nodup) (zone : Text) :
    (zoneGroup zoneOf nodes zone).Pairwise fun node later => node.name < later.name :=
  (sortByName_ascending distinct).filter _

theorem zonesInTurn_ascending : (zonesInTurn zoneOf nodes).Pairwise fun zone later => zone < later :=
  (((KeySet.ofList (nodes.map zoneOf)).keys_ordered.imp of_decide_eq_true)).filter _

theorem rankInZone_eq_of_getElem? (distinct : (nodes.map Node.name).Nodup) {zone : Text} {place : Nat}
    {node : Node} (found : (zoneGroup zoneOf nodes zone)[place]? = some node) :
    rankInZone zoneOf nodes node = place := by
  have ofZone : zoneOf node = zone := (mem_zoneGroup_iff.mp (List.mem_of_getElem? found)).2
  have ordered : (zoneGroup zoneOf nodes zone).Pairwise fun first later =>
      decide (first.name < later.name) = true ∧ decide (later.name < first.name) = false := by
    refine (ascending_zoneGroup distinct zone).imp fun less => ?_
    exact ⟨decide_eq_true less, decide_eq_false (List.lt_asymm less)⟩
  calc rankInZone zoneOf nodes node
      = (sortByName nodes).countP fun other => zoneOf other = zoneOf node ∧ other.name < node.name :=
        (sortByName_perm nodes).symm.countP_eq _
    _ = (zoneGroup zoneOf nodes zone).countP fun other => other.name < node.name := by
        rw [zoneGroup, List.countP_filter, ofZone]
        simp only [Bool.decide_and, Bool.and_comm]
    _ = place := countP_eq_of_getElem? ordered (decide_eq_false (List.lt_irrefl _)) found

theorem turns_roundRobin (distinct : (nodes.map Node.name).Nodup) :
    (roundRobin ((zonesInTurn zoneOf nodes).map (zoneGroup zoneOf nodes))).Pairwise
      (TurnsBefore zoneOf nodes) := by
  apply pairwise_roundRobin (rankInZone zoneOf nodes) fun node later => zoneOf node < zoneOf later
  · intro group listed turn node found
    obtain ⟨zone, _, rfl⟩ := List.mem_map.mp listed
    exact rankInZone_eq_of_getElem? distinct found
  · apply List.pairwise_map.mpr
    refine zonesInTurn_ascending.imp ?_
    intro zone later less node inZone other inLater
    rw [(mem_zoneGroup_iff.mp inZone).2, (mem_zoneGroup_iff.mp inLater).2]
    exact less

theorem turnsBefore_placementOrder (zoneOf : Node → Text) (distinct : (nodes.map Node.name).Nodup) :
    (placementOrder zoneOf nodes).Pairwise fun node later =>
      zoneOf later ≠ [] → TurnsBefore zoneOf nodes node later := by
  have zoneless : ∀ node ∈ zoneGroup zoneOf nodes [], zoneOf node = [] :=
    fun node member => (mem_zoneGroup_iff.mp member).2
  rw [placementOrder_eq]
  apply List.pairwise_append.mpr
  refine ⟨?_, ?_, ?_⟩
  · refine (turns_roundRobin distinct).imp ?_
    intro node later before _
    exact before
  · apply List.pairwise_of_forall_mem_list
    intro node _ later member zoned
    exact absurd (zoneless later member) zoned
  · intro node _ later member zoned
    exact absurd (zoneless later member) zoned

theorem name_lt_of_turnsBefore {node later : Node} (before : TurnsBefore zoneOf nodes node later)
    (sameZone : zoneOf node = zoneOf later) : node.name < later.name := by
  have lessRank : rankInZone zoneOf nodes node < rankInZone zoneOf nodes later := by
    apply before.resolve_right
    intro together
    exact List.lt_irrefl _ (sameZone ▸ together.2)
  by_contra notLess
  have counted : rankInZone zoneOf nodes later ≤ rankInZone zoneOf nodes node := by
    apply List.countP_mono_left
    intro other _ counts
    simp only [decide_eq_true_eq] at counts ⊢
    refine ⟨counts.1.trans sameZone.symm, ?_⟩
    by_contra notBelow
    exact notLess (List.lt_of_le_of_lt notBelow counts.2)
  omega

section

variable (distinct : (nodes.map Node.name).Nodup)

include distinct

/-- The rank of a zoned node is the number of nodes of its zone that are placed before it. -/
theorem rankInZone_eq_countInZone {earlier later : List Node} {node : Node}
    (split : placementOrder zoneOf nodes = earlier ++ node :: later) (zoned : zoneOf node ≠ []) :
    rankInZone zoneOf nodes node = countInZone zoneOf (zoneOf node) earlier := by
  have turns := turnsBefore_placementOrder zoneOf distinct
  rw [split] at turns
  obtain ⟨_, behind, across⟩ := List.pairwise_append.mp turns
  have smaller : ∀ other ∈ earlier, zoneOf other = zoneOf node → other.name < node.name :=
    fun other member => name_lt_of_turnsBefore (across other member node List.mem_cons_self zoned)
  have greater : ∀ other ∈ later, zoneOf other = zoneOf node → ¬other.name < node.name := by
    intro other member sameZone less
    have before := List.rel_of_pairwise_cons behind member (sameZone ▸ zoned)
    exact List.lt_asymm less (name_lt_of_turnsBefore before sameZone.symm)
  let counts (other : Node) : Bool := zoneOf other = zoneOf node ∧ other.name < node.name
  have inEarlier : earlier.countP counts = countInZone zoneOf (zoneOf node) earlier := by
    apply List.countP_congr
    intro other member
    simpa [counts] using smaller other member
  have inLater : later.countP counts = 0 := by
    apply List.countP_eq_zero.mpr
    intro other member
    simpa [counts] using greater other member
  calc rankInZone zoneOf nodes node
      = (placementOrder zoneOf nodes).countP counts := (placementOrder_perm zoneOf nodes).symm.countP_eq _
    _ = earlier.countP counts + (node :: later).countP counts := by rw [split, List.countP_append]
    _ = countInZone zoneOf (zoneOf node) earlier := by
        rw [List.countP_cons, inEarlier, inLater]
        simp [counts]

section

variable {placed left : List Node} (split : placementOrder zoneOf nodes = placed ++ left)

include split

theorem exists_last_of_zone {zone : Text} (named : zone ≠ [])
    (some : 0 < countInZone zoneOf zone placed) :
    ∃ last ∈ placed, countInZone zoneOf zone placed = rankInZone zoneOf nodes last + 1 := by
  obtain ⟨front, last, back, splitPlaced, ofZone, number⟩ := exists_last_of_countP_pos some
  have ofZone : zoneOf last = zone := of_decide_eq_true ofZone
  have whole : placementOrder zoneOf nodes = front ++ last :: (back ++ left) := by
    rw [split, splitPlaced, List.append_assoc, List.cons_append]
  refine ⟨last, by simp [splitPlaced], ?_⟩
  rw [rankInZone_eq_countInZone distinct whole (ofZone ▸ named), ofZone]
  exact number

theorem exists_next_of_zone {node : Node} (member : node ∈ left) (zoned : zoneOf node ≠ []) :
    ∃ next ∈ left, zoneOf next ≠ []
      ∧ rankInZone zoneOf nodes next = countInZone zoneOf (zoneOf node) placed := by
  obtain ⟨next, found⟩ : ∃ next, left.find? (fun other => zoneOf other = zoneOf node) = .some next :=
    Option.isSome_iff_exists.mp (List.find?_isSome.mpr ⟨node, member, by simp⟩)
  obtain ⟨sameZone, skipped, rest, splitLeft, others⟩ := List.find?_eq_some_iff_append.mp found
  have sameZone : zoneOf next = zoneOf node := of_decide_eq_true sameZone
  have whole : placementOrder zoneOf nodes = (placed ++ skipped) ++ next :: rest := by
    rw [split, splitLeft, List.append_assoc]
  have none : countInZone zoneOf (zoneOf node) skipped = 0 := by
    apply List.countP_eq_zero.mpr
    intro other inSkipped
    simpa using others other inSkipped
  refine ⟨next, by simp [splitLeft], sameZone ▸ zoned, ?_⟩
  calc rankInZone zoneOf nodes next
      = countInZone zoneOf (zoneOf next) (placed ++ skipped) :=
        rankInZone_eq_countInZone distinct whole (sameZone ▸ zoned)
    _ = countInZone zoneOf (zoneOf node) placed + countInZone zoneOf (zoneOf node) skipped := by
        rw [sameZone]
        exact List.countP_append
    _ = countInZone zoneOf (zoneOf node) placed := by rw [none, Nat.add_zero]

/-- Whatever has been placed, a zone with a node left is behind another zone by one node at most. -/
theorem countInZone_le_of_left {node : Node} (member : node ∈ left) (zoned : zoneOf node ≠ [])
    {zone : Text} (named : zone ≠ []) :
    countInZone zoneOf zone placed ≤ countInZone zoneOf (zoneOf node) placed + 1 := by
  by_cases some : 0 < countInZone zoneOf zone placed
  · obtain ⟨last, inPlaced, number⟩ := exists_last_of_zone distinct split named some
    obtain ⟨next, inLeft, nextZoned, rank⟩ := exists_next_of_zone distinct split member zoned
    have turns := turnsBefore_placementOrder zoneOf distinct
    rw [split] at turns
    have before := (List.pairwise_append.mp turns).2.2 last inPlaced next inLeft nextZoned
    have ranks : rankInZone zoneOf nodes last ≤ rankInZone zoneOf nodes next :=
      before.elim Nat.le_of_lt fun together => Nat.le_of_eq together.1
    omega
  · omega

end

end

/-- The order in which nodes are placed has each of them once. All zoned nodes come first, by the rank
of their names in their zones and of one rank by the zones, and then the others by name. As long as two
zones have nodes left, the numbers of those that were taken from them differ by one at most. -/
theorem zones_take_turns (zoneOf : Node → Text) (nodes : List Node)
    (distinct : (nodes.map Node.name).Nodup) :
    (placementOrder zoneOf nodes).Perm nodes
      ∧ (∃ zoned zoneless, placementOrder zoneOf nodes = zoned ++ zoneless
        ∧ (∀ node ∈ zoned, zoneOf node ≠ []) ∧ (∀ node ∈ zoneless, zoneOf node = [])
        ∧ zoned.Pairwise (TurnsBefore zoneOf nodes)
        ∧ zoneless.Pairwise fun node later => node.name < later.name)
      ∧ ∀ placed left, placementOrder zoneOf nodes = placed ++ left →
        ∀ node ∈ left, ∀ other ∈ left, zoneOf node ≠ [] → zoneOf other ≠ [] →
          countInZone zoneOf (zoneOf node) placed ≤ countInZone zoneOf (zoneOf other) placed + 1
            ∧ countInZone zoneOf (zoneOf other) placed ≤ countInZone zoneOf (zoneOf node) placed + 1 := by
  refine ⟨placementOrder_perm zoneOf nodes, ?_, ?_⟩
  · refine ⟨_, _, placementOrder_eq zoneOf nodes, ?_, ?_, turns_roundRobin distinct,
      ascending_zoneGroup distinct []⟩
    · intro node member
      have inGroups := (roundRobin_perm _).mem_iff.mp member
      obtain ⟨group, listed, inGroup⟩ := List.mem_flatten.mp inGroups
      obtain ⟨zone, inTurn, rfl⟩ := List.mem_map.mp listed
      rw [(mem_zoneGroup_iff.mp inGroup).2]
      exact (mem_zonesInTurn_iff.mp inTurn).1
    · exact fun node member => (mem_zoneGroup_iff.mp member).2
  · intro placed left split node member other otherMember zoned otherZoned
    exact ⟨countInZone_le_of_left distinct split otherMember otherZoned zoned,
      countInZone_le_of_left distinct split member zoned otherZoned⟩

end

/-! A zone of three nodes and one of two, and a node without a zone. -/

def nodeIn (zone name : Text) : Node := ⟨name, .ofList [("topology.kubernetes.io/zone", zone)]⟩

def twoZonesByName : List Node :=
  [⟨"a0", .empty⟩, nodeIn "a" "a1", nodeIn "a" "a2", nodeIn "a" "a3", nodeIn "b" "b1", nodeIn "b" "b2"]

theorem zone_ahead_by_one :
    (twoZonesByName.map Node.name).Nodup
      ∧ ∃ placed left, placementOrder zone twoZonesByName = placed ++ left
        ∧ countInZone zone "a" placed = 2
        ∧ countInZone zone "a" placed ≤ countInZone zone "b" placed + 1 := by
  have distinct : (twoZonesByName.map Node.name).Nodup := by decide
  have sorted : sortByName twoZonesByName = twoZonesByName := List.mergeSort_of_pairwise (by decide)
  have order : placementOrder zone twoZonesByName =
      [nodeIn "a" "a1", nodeIn "b" "b1", nodeIn "a" "a2"]
        ++ [nodeIn "b" "b2", nodeIn "a" "a3", ⟨"a0", .empty⟩] := by
    rw [placementOrder, sorted]
    rfl
  have taken := (zones_take_turns zone twoZonesByName distinct).2.2 _ _ order
  have ahead := taken (nodeIn "a" "a3") (by simp) (nodeIn "b" "b2") (by simp) (by decide) (by decide)
  exact ⟨distinct, _, _, order, by decide, ahead.1⟩

end Node
end ClusterTopology
