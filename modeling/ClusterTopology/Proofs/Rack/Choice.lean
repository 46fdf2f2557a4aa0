import ClusterTopology.Proofs.Rack.Success

/-!
The choice of a rack by its numbers. Racks are made up to the least number asked for, and a node
goes to the least populated of the racks that suit its zone. Only when none does is one rack more
opened for it, and that is reported.
-/

namespace ClusterTopology.Racks

def population (racks : Racks) (rack : Text) : Nat := (racks.members rack).size

def HoldsZone (zones : Zones) (racks : Racks) (rack zone : Text) : Prop :=
  ∃ member, racks.Holds rack member ∧ zones.find? member = some zone

/-- A rack to which a node of a zone may go, where no zone is the empty one: any of the racks for no
zone, and otherwise one in which nobody stands, or some node of the zone. -/
def Suits (zones : Zones) (zone : Text) (racks : Racks) (rack : Text) : Prop :=
  racks.contains rack = true
    ∧ (zone = [] ∨ (∀ member, ¬racks.Holds rack member) ∨ racks.HoldsZone zones rack zone)

def GoesBefore (racks : Racks) (rack other : Text) : Prop :=
  racks.population rack < racks.population other
    ∨ (racks.population rack = racks.population other ∧ ¬other < rack)

theorem GoesBefore.population_le {racks : Racks} {rack other : Text}
    (before : racks.GoesBefore rack other) : racks.population rack ≤ racks.population other := by
  rcases before with fewer | ⟨same, _⟩
  · exact Nat.le_of_lt fewer
  · exact Nat.le_of_eq same

section

variable {racks other : Racks} {zones : Zones} {zone rack : Text}

theorem population_eq_zero_iff :
    racks.population rack = 0 ↔ ∀ member, ¬racks.Holds rack member := by
  simp only [population, Table.size_eq_zero_iff, Table.isEmpty_iff, Holds, Bool.not_eq_true]

theorem members_addNode (racks : Racks) (rack node other : Text) :
    (racks.addNode rack node).members other =
      if other = rack then (racks.members rack).insert node else racks.members other := by
  unfold members addNode
  rw [Table.find?_put]
  by_cases same : other = rack <;> simp [same]

theorem population_addNode_of_ne (node : Text) {other : Text} (different : other ≠ rack) :
    (racks.addNode rack node).population other = racks.population other := by
  unfold population
  rw [members_addNode, if_neg different]

theorem population_addNode_bounds (racks : Racks) (rack node : Text) :
    racks.population rack ≤ (racks.addNode rack node).population rack
      ∧ (racks.addNode rack node).population rack ≤ racks.population rack + 1 := by
  unfold population
  rw [members_addNode, if_pos rfl]
  exact KeySet.size_insert_bounds _ _

theorem contains_addNode_iff (racks : Racks) (rack node other : Text) :
    (racks.addNode rack node).contains other = true ↔ other = rack ∨ racks.contains other = true := by
  rw [addNode, Table.contains_put, Bool.or_eq_true, decide_eq_true_eq]

theorem holdsZone_addNode_iff (racks : Racks) (rack node other zone : Text) :
    (racks.addNode rack node).HoldsZone zones other zone ↔
      (other = rack ∧ zones.find? node = some zone) ∨ racks.HoldsZone zones other zone := by
  unfold HoldsZone
  simp only [holds_addNode_iff]
  grind

theorem admits_iff : admits zones zone (racks.members rack) = true ↔
    (∀ member, ¬racks.Holds rack member) ∨ racks.HoldsZone zones rack zone := by
  simp only [admits, Bool.or_eq_true, Table.isEmpty_iff, List.any_eq_true, Table.mem_keys_iff,
    decide_eq_true_eq, Holds, HoldsZone, Bool.not_eq_true]

theorem mem_candidates_iff {members : KeySet Text} :
    (rack, members) ∈ candidates zones zone racks ↔
      racks.Suits zones zone rack ∧ members = racks.members rack := by
  have listed : (rack, members) ∈ racks.entries ↔
      racks.contains rack = true ∧ members = racks.members rack := by
    rw [← Table.find?_eq_some_iff, Table.contains_iff, Racks.members]
    constructor
    · intro found
      simp [found]
    · rintro ⟨⟨nodes, found⟩, rfl⟩
      simp [found]
  unfold candidates Suits
  by_cases zoneless : zone = []
  · simp [zoneless, listed]
  · simp only [zoneless, List.isEmpty_iff, ↓reduceIte, List.mem_filter, listed, false_or]
    constructor
    · rintro ⟨⟨there, rfl⟩, admitted⟩
      exact ⟨⟨there, admits_iff.mp admitted⟩, rfl⟩
    · rintro ⟨⟨there, suits⟩, rfl⟩
      exact ⟨⟨there, rfl⟩, admits_iff.mpr suits⟩

end

theorem first_of_leastPopulated {racks : List (Text × KeySet Text)} {rack : Text × KeySet Text}
    (ordered : racks.Pairwise fun entry later => Key.before entry.1 later.1)
    (least : leastPopulated racks = some rack) :
    ∀ other ∈ racks, rack.2.size < other.2.size
      ∨ (rack.2.size = other.2.size ∧ Key.before other.1 rack.1 = false) := by
  induction racks generalizing rack with
  | nil => simp
  | cons first rest ih =>
    have ⟨front, orderedRest⟩ := List.pairwise_cons.mp ordered
    have itself : Key.before first.1 first.1 = false := LawfulKey.before_irrefl
    unfold leastPopulated at least
    rw [List.forall_mem_cons]
    cases ofRest : leastPopulated rest with
    | none =>
      simp only [ofRest, Option.some.injEq] at least
      subst least
      rw [eq_nil_of_leastPopulated_eq_none ofRest]
      exact ⟨Or.inr ⟨rfl, itself⟩, by simp⟩
    | some best =>
      have bestOfRest := ih orderedRest ofRest
      simp only [ofRest] at least
      split at least
      · next smaller =>
        obtain rfl := Option.some.inj least
        exact ⟨Or.inl smaller, bestOfRest⟩
      · next notSmaller =>
        obtain rfl := Option.some.inj least
        refine ⟨Or.inr ⟨rfl, itself⟩, fun other member => ?_⟩
        have noLess : first.2.size ≤ other.2.size := by
          rcases bestOfRest other member with less | ⟨same, _⟩ <;> omega
        rcases Nat.lt_or_eq_of_le noLess with less | same
        · exact Or.inl less
        · -- A rack with as many nodes that is listed later has a later name.
          refine Or.inr ⟨same, ?_⟩
          cases after : Key.before other.1 first.1 with
          | false => rfl
          | true => exact absurd rfl (Table.ne_of_before (Key.before_trans (front other member) after))

/-! How many racks there are. -/

theorem size_withFresh (count : Nat) (racks : Racks) :
    (racks.withFresh count).size = racks.size + count := by
  induction count generalizing racks with
  | zero => rfl
  | succ count ih =>
    rw [withFresh, ih, Table.size_put_of_new racks.contains_freeName]
    omega

theorem size_withAtLeast (minimum : Int) (racks : Racks) :
    (racks.withAtLeast minimum).size = max racks.size minimum.toNat := by
  rw [withAtLeast, size_withFresh]
  omega

theorem le_size_withAtLeast (minimum : Int) (racks : Racks) :
    minimum ≤ (racks.withAtLeast minimum).size := by
  rw [size_withAtLeast]
  omega

theorem withAtLeast_of_le {minimum : Int} {racks : Racks} (enough : minimum ≤ racks.size) :
    racks.withAtLeast minimum = racks := by
  have none : (minimum - racks.size).toNat = 0 := by omega
  rw [withAtLeast, none, withFresh]

/-! What comes of a choice. -/

section

variable (racks : Racks) (minimum : Int) (zones : Zones) (node : Node)

theorem candidates_ordered (zones : Zones) (zone : Text) (racks : Racks) :
    (candidates zones zone racks).Pairwise fun entry later => Key.before entry.1 later.1 := by
  unfold candidates
  split
  · exact racks.ordered
  · exact racks.ordered.filter _

theorem place_eq_first_or_opened :
    let ready := racks.withAtLeast minimum
    let zone := targetZone zones node
    (∃ rack, racks.place minimum zones node = .done ready rack ∧ ready.Suits zones zone rack
        ∧ ∀ other, ready.Suits zones zone other → ready.GoesBefore rack other)
      ∨ ((∀ rack, ¬ready.Suits zones zone rack)
        ∧ racks.place minimum zones node =
          if zone = [] then .failed ready .noRack
          else ⟨ready.put ready.freeName .empty, [.rackOpened zone ready.freeName node.name],
            .ok ready.freeName⟩) := by
  intro ready zone
  cases least : leastPopulated (candidates zones zone ready) with
  | some chosen =>
    obtain ⟨rack, members⟩ := chosen
    obtain ⟨suits, rfl⟩ := mem_candidates_iff.mp (mem_of_leastPopulated least)
    refine Or.inl ⟨rack, place_of_some least, suits, fun other suitsOther => ?_⟩
    have first := first_of_leastPopulated (candidates_ordered zones zone ready) least
      (other, ready.members other) (mem_candidates_iff.mpr ⟨suitsOther, rfl⟩)
    simpa [GoesBefore, population, Key.before] using first
  | none =>
    refine Or.inr ⟨fun rack suits => ?_, place_of_none least⟩
    have member : (rack, ready.members rack) ∈ candidates zones zone ready :=
      mem_candidates_iff.mpr ⟨suits, rfl⟩
    rw [eq_nil_of_leastPopulated_eq_none least] at member
    exact absurd member (by simp)

end

section

variable {minimum : Int} (positive : 1 ≤ minimum) (racks : Racks) (zones : Zones) (node : Node)

include positive

/-- A node goes to the least populated of the racks that suit its zone. If none does, a rack is
opened for it; then it has a zone, and every other rack is held by other nodes. -/
theorem place_cases :
    let ready := racks.withAtLeast minimum
    let zone := targetZone zones node
    (∃ rack, racks.place minimum zones node = .done ready rack ∧ ready.Suits zones zone rack
        ∧ ∀ other, ready.Suits zones zone other → ready.population rack ≤ ready.population other)
      ∨ (zone ≠ [] ∧ (∀ rack, ¬ready.Suits zones zone rack)
        ∧ racks.place minimum zones node = ⟨ready.put ready.freeName .empty,
          [.rackOpened zone ready.freeName node.name], .ok ready.freeName⟩) := by
  intro ready zone
  rcases place_eq_first_or_opened racks minimum zones node with
    ⟨rack, placed, suits, first⟩ | ⟨nothing, placed⟩
  · exact Or.inl ⟨rack, placed, suits, fun other suitsOther => (first other suitsOther).population_le⟩
  · have zoned : zone ≠ [] := by
      intro zoneless
      obtain ⟨rack, found⟩ := exists_place_eq_ok positive racks zones node
      rw [placed, if_pos zoneless] at found
      exact absurd found (by simp [Outcome.failed])
    exact Or.inr ⟨zoned, nothing, placed.trans (if_neg zoned)⟩

theorem le_size_of_place : minimum ≤ (racks.place minimum zones node).state.size := by
  have ready := le_size_withAtLeast minimum racks
  rcases place_cases positive racks zones node with ⟨rack, placed, _⟩ | ⟨_, _, placed⟩ <;>
    rw [placed]
  · exact ready
  · rw [Table.size_put_of_new (contains_freeName _)]
    push_cast
    omega

end

/-! The racks after a choice stand as they did before, and there may be more of them. -/

theorem members_place (racks : Racks) (minimum : Int) (zones : Zones) (node : Node) (rack : Text) :
    (racks.place minimum zones node).state.members rack = racks.members rack :=
  members_eq_of_holds_iff (holds_place_iff racks minimum zones node rack)

theorem population_place (racks : Racks) (minimum : Int) (zones : Zones) (node : Node) (rack : Text) :
    (racks.place minimum zones node).state.population rack = racks.population rack := by
  unfold population
  rw [members_place]

theorem holdsZone_place_iff (racks : Racks) (minimum : Int) (zones : Zones) (node : Node)
    {rack zone : Text} :
    (racks.place minimum zones node).state.HoldsZone zones rack zone ↔
      racks.HoldsZone zones rack zone := by
  simp only [HoldsZone, holds_place_iff]

section

variable {racks : Racks} {minimum : Int} {zones : Zones} {node : Node} {chosen : Text}

theorem suits_put_freeName (ready : Racks) (zone : Text) :
    Suits zones zone (ready.put ready.freeName .empty) ready.freeName := by
  refine ⟨by simp [Table.contains_put], Or.inr (Or.inl fun member inside => ?_)⟩
  rw [holds_put_empty_iff ready.contains_freeName] at inside
  exact absurd (contains_of_holds inside) (by simp [contains_freeName])

/-- A rack that was opened because none suited is the only one that suits. -/
theorem eq_freeName_of_suits {ready : Racks} {zone other : Text}
    (nothing : ∀ rack, ¬ready.Suits zones zone rack)
    (suits : Suits zones zone (ready.put ready.freeName .empty) other) : other = ready.freeName := by
  by_contra different
  apply nothing other
  simpa [Suits, HoldsZone, holds_put_empty_iff ready.contains_freeName, Table.contains_put, different]
    using suits

variable (positive : 1 ≤ minimum) (found : (racks.place minimum zones node).result = .ok chosen)

include positive found

theorem suits_of_place :
    (racks.place minimum zones node).state.Suits zones (targetZone zones node) chosen := by
  rcases place_cases positive racks zones node with ⟨rack, placed, suits, _⟩ | ⟨_, _, placed⟩ <;>
    rw [placed] at found ⊢
  · obtain rfl := Except.ok.inj found
    exact suits
  · obtain rfl := Except.ok.inj found
    exact suits_put_freeName _ _

theorem population_le_of_place {other : Text}
    (suits : (racks.place minimum zones node).state.Suits zones (targetZone zones node) other) :
    racks.population chosen ≤ racks.population other := by
  simp only [← population_place racks minimum zones node]
  rcases place_cases positive racks zones node with ⟨rack, placed, _, least⟩ | ⟨_, nothing, placed⟩ <;>
    rw [placed] at found suits ⊢
  · obtain rfl := Except.ok.inj found
    exact least other suits
  · obtain rfl := Except.ok.inj found
    rw [eq_freeName_of_suits nothing suits]

theorem contains_or_opened_of_place (enough : minimum ≤ racks.size) {other : Text}
    (there : (racks.place minimum zones node).state.contains other = true) :
    racks.contains other = true
      ∨ (other = chosen ∧ targetZone zones node ≠ [] ∧ ∀ suited,
        (racks.place minimum zones node).state.Suits zones (targetZone zones node) suited →
          suited = chosen) := by
  rcases place_cases positive racks zones node with ⟨rack, placed, _⟩ | ⟨zoned, nothing, placed⟩ <;>
    rw [placed] at found there ⊢ <;> rw [withAtLeast_of_le enough] at *
  · exact Or.inl there
  · obtain rfl := Except.ok.inj found
    rw [Table.contains_put, Bool.or_eq_true, decide_eq_true_eq] at there
    rcases there with rfl | before
    · exact Or.inr ⟨rfl, zoned, fun suited => eq_freeName_of_suits nothing⟩
    · exact Or.inl before

end

end ClusterTopology.Racks
