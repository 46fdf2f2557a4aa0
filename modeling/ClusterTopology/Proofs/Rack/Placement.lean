import ClusterTopology.Proofs.Rack.Regrowth

/-!
All that the choice of a rack for one node does, for any number of racks asked for. Empty racks are
added under the least free names until there are enough; then the first of the racks that suit the
node is chosen, or one more is added for its zone. The racks that were there stay as they are, and
the choice fails just where there is no rack, none is asked for and no zone calls for one.
-/

namespace ClusterTopology.Racks

/-- Empty racks are added one after the other, each under the name with the least number that is not
in use at that moment. -/
inductive Adds : Racks → List Text → Racks → Prop
  | nothing (racks : Racks) : Adds racks [] racks
  | another {racks after : Racks} {number : Nat} {names : List Text}
    (free : racks.contains (rackName number) = false)
    (least : ∀ smaller < number, racks.contains (rackName smaller) = true)
    (later : Adds (racks.put (rackName number) .empty) names after) :
    Adds racks (rackName number :: names) after

namespace Adds

variable {racks middle after : Racks} {names others : List Text}

theorem freeName_cons (racks : Racks) (later : Adds (racks.put racks.freeName .empty) names after) :
    Adds racks (racks.freeName :: names) after := by
  obtain ⟨number, named, used⟩ := exists_freeName_eq racks
  have free : racks.contains (rackName number) = false := named ▸ racks.contains_freeName
  rw [named] at later ⊢
  exact .another free used later

theorem one (racks : Racks) : Adds racks [racks.freeName] (racks.put racks.freeName .empty) :=
  freeName_cons racks (.nothing _)

theorem append (first : Adds racks names middle) (second : Adds middle others after) :
    Adds racks (names ++ others) after := by
  induction first with
  | nothing => exact second
  | another free least _ ih => exact .another free least (ih second)

theorem contains_of_mem (adds : Adds racks names after) {name : Text} (member : name ∈ names) :
    racks.contains name = false := by
  induction adds with
  | nothing => exact absurd member (by simp)
  | another free _ _ ih =>
    rcases List.mem_cons.mp member with rfl | member
    · exact free
    · have unused := ih member
      rw [Table.contains_put, Bool.or_eq_false_iff] at unused
      exact unused.2

theorem find?_eq (adds : Adds racks names after) (rack : Text) :
    after.find? rack = if rack ∈ names then some .empty else racks.find? rack := by
  induction adds with
  | nothing => simp
  | another _ _ _ ih =>
    rw [ih, Table.find?_put]
    simp only [List.mem_cons]
    split <;> simp_all

end Adds

theorem exists_adds_withFresh (count : Nat) (racks : Racks) :
    ∃ names, names.length = count ∧ Adds racks names (racks.withFresh count) := by
  induction count generalizing racks with
  | zero => exact ⟨[], rfl, .nothing racks⟩
  | succ count ih =>
    obtain ⟨names, length, adds⟩ := ih (racks.put racks.freeName .empty)
    exact ⟨racks.freeName :: names, by simp [length], Adds.freeName_cons racks adds⟩

/-- The first of the racks that suit a zone, by fewer nodes and then by name. -/
def FirstSuiting (zones : Zones) (zone : Text) (racks : Racks) (rack : Text) : Prop :=
  racks.Suits zones zone rack ∧ ∀ other, racks.Suits zones zone other → racks.GoesBefore rack other

theorem isEmpty_withAtLeast_iff {racks : Racks} {minimum : Int} :
    (racks.withAtLeast minimum).isEmpty = true ↔ racks.isEmpty = true ∧ minimum ≤ 0 := by
  rw [← Table.size_eq_zero_iff, ← Table.size_eq_zero_iff, size_withAtLeast]
  omega

theorem isEmpty_iff_none_suits {racks : Racks} {zones : Zones} :
    racks.isEmpty = true ↔ ∀ rack, ¬racks.Suits zones [] rack := by
  simp [Table.isEmpty_iff, Suits]

theorem place_eq_error_iff (racks : Racks) (minimum : Int) (zones : Zones) (node : Node)
    (fault : Fault) :
    (racks.place minimum zones node).result = .error fault ↔
      fault = .noRack ∧ targetZone zones node = [] ∧ racks.isEmpty = true ∧ minimum ≤ 0 := by
  rw [← isEmpty_withAtLeast_iff, @isEmpty_iff_none_suits _ zones]
  rcases place_eq_first_or_opened racks minimum zones node with
    ⟨rack, placed, suits, _⟩ | ⟨nothing, placed⟩
  · rw [placed]
    constructor
    · intro failure
      exact absurd failure (by simp [Outcome.done])
    · rintro ⟨_, zoneless, nothing⟩
      rw [zoneless] at suits
      exact absurd suits (nothing rack)
  · rw [placed]
    by_cases zoneless : targetZone zones node = []
    · rw [zoneless] at nothing
      simp [Outcome.failed, zoneless, nothing, eq_comm]
    · simp [zoneless]

/-- The choice of a rack in full. First as many empty racks are added as are missing. Then the first
suitable rack is taken, by fewer nodes and then by name; or, where none suits the zone of the node,
one rack more is added, which is reported. The choice fails just where there is nothing to choose, and
whatever comes of it, no rack is changed that was there before. -/
theorem place_takes_first_or_adds (racks : Racks) (minimum : Int) (zones : Zones) (node : Node) :
    let zone := targetZone zones node
    let placed := racks.place minimum zones node
    (∃ missing, ∃ ready : Racks, Adds racks missing ready
      ∧ missing.length = (minimum - racks.size).toNat
      ∧ ((∃ rack, ready.FirstSuiting zones zone rack ∧ placed = .done ready rack)
        ∨ (zone ≠ [] ∧ (∀ rack, ¬ready.Suits zones zone rack)
          ∧ (∃ rack after, Adds ready [rack] after
            ∧ placed = ⟨after, [.rackOpened zone rack node.name], .ok rack⟩)
          ∧ ∃ line, logOf placed.events = [(.warning, line)])
        ∨ (zone = [] ∧ placed = .failed racks .noRack)))
      ∧ (∀ fault, placed.result = .error fault ↔
        fault = .noRack ∧ zone = [] ∧ racks.isEmpty = true ∧ minimum ≤ 0)
      ∧ ∃ added : List Text, (∀ rack ∈ added, racks.contains rack = false) ∧ ∀ rack,
        placed.state.find? rack = if rack ∈ added then some .empty else racks.find? rack := by
  intro zone placed
  obtain ⟨missing, count, adds⟩ := exists_adds_withFresh (minimum - racks.size).toNat racks
  have unchanged {added : List Text} {after : Racks} (adds : Adds racks added after) :
      ∃ added : List Text, (∀ rack ∈ added, racks.contains rack = false)
        ∧ ∀ rack, after.find? rack = if rack ∈ added then some .empty else racks.find? rack :=
    ⟨added, fun _ => adds.contains_of_mem, adds.find?_eq⟩
  have failing := place_eq_error_iff racks minimum zones node
  rcases place_eq_first_or_opened racks minimum zones node with
    ⟨rack, chosen, suits, first⟩ | ⟨nothing, opened⟩
  · have state : placed.state = racks.withAtLeast minimum := congrArg Outcome.state chosen
    refine ⟨⟨missing, _, adds, count, Or.inl ⟨rack, ⟨suits, first⟩, chosen⟩⟩, failing, ?_⟩
    rw [state]
    exact unchanged adds
  · by_cases zoneless : zone = []
    · rw [if_pos zoneless] at opened
      have failure : placed.result = .error .noRack := congrArg Outcome.result opened
      obtain ⟨_, _, _, unasked⟩ := (failing _).mp failure
      have same : racks.withAtLeast minimum = racks := withAtLeast_of_le (by omega)
      rw [same] at opened
      have state : placed.state = racks := congrArg Outcome.state opened
      refine ⟨⟨missing, _, adds, count, Or.inr (Or.inr ⟨zoneless, opened⟩)⟩, failing, ?_⟩
      rw [state]
      exact unchanged (.nothing racks)
    · rw [if_neg zoneless] at opened
      have added := Adds.one (racks.withAtLeast minimum)
      have state : placed.state = _ := congrArg Outcome.state opened
      have warned : ∃ line, logOf placed.events = [(.warning, line)] :=
        ⟨_, congrArg (fun outcome => logOf outcome.events) opened⟩
      refine ⟨⟨missing, _, adds, count,
        Or.inr (Or.inl ⟨zoneless, nothing, ⟨_, _, added, opened⟩, warned⟩)⟩, failing, ?_⟩
      rw [state]
      exact unchanged (adds.append added)

example : (place (.ofList [("rack2", .empty), ("rack10", .empty)]) 2 .empty ⟨"n", .empty⟩).result =
    .ok "rack10" := rfl

end ClusterTopology.Racks
