import ClusterTopology.Proofs.Outcome
import ClusterTopology.Proofs.Table
import ClusterTopology.Rack.Placement
import Mathlib.Data.List.Nodup
import Mathlib.Data.List.Perm.Subperm

/-!
Which nodes stand in which racks. Making empty racks moves no node, and giving a node a rack puts
that node into that rack and changes nothing else. A free name is one that no rack has.
-/

namespace ClusterTopology

theorem Text.ofChars_injective : Function.Injective Text.ofChars := by
  apply List.map_injective_iff.mpr
  intro c d same
  have value : c.val.toNat = d.val.toNat := congrArg (fun point : CodePoint => point.val) same
  exact Char.ext (UInt32.toNat_inj.mp value)

theorem Text.ofNat_injective : Function.Injective Text.ofNat :=
  Text.ofChars_injective.comp
    (Function.LeftInverse.injective (g := fun digits => Nat.ofDigitChars 10 digits 0)
      fun _ => Nat.ofDigitChars_ten_toDigits)

namespace Racks

def members (racks : Racks) (rack : Text) : KeySet Text := (racks.find? rack).getD .empty

def Holds (racks : Racks) (rack node : Text) : Prop := (racks.members rack).contains node = true

theorem holds_empty (rack node : Text) : ¬Holds Table.empty rack node := by
  simp [Holds, members]

theorem contains_of_holds {racks : Racks} {rack member : Text} (inside : racks.Holds rack member) :
    racks.contains rack = true := by
  unfold Holds members at inside
  cases found : racks.find? rack with
  | none => simp [found] at inside
  | some nodes => exact Table.contains_iff.mpr ⟨nodes, found⟩

theorem members_eq_of_holds_iff {racks other : Racks} {rack : Text}
    (same : ∀ member, racks.Holds rack member ↔ other.Holds rack member) :
    racks.members rack = other.members rack := by
  apply KeySet.ext_contains
  intro member
  exact Bool.eq_iff_iff.mpr (same member)

theorem holds_addNode_iff (racks : Racks) (rack node other member : Text) :
    (racks.addNode rack node).Holds other member ↔
      (other = rack ∧ member = node) ∨ racks.Holds other member := by
  unfold Holds members addNode
  rw [Table.find?_put]
  by_cases same : other = rack
  · subst other
    simp [KeySet.contains_insert]
  · simp [same]

theorem mem_nodes_iff (racks : Racks) (node : Text) :
    node ∈ racks.nodes ↔ ∃ rack, racks.Holds rack node := by
  simp only [nodes, List.mem_flatMap, Table.mem_keys_iff]
  constructor
  · rintro ⟨⟨rack, members⟩, entry, member⟩
    refine ⟨rack, ?_⟩
    simpa [Holds, Racks.members, (racks.find?_eq_some_iff rack members).mpr entry] using member
  · rintro ⟨rack, member⟩
    unfold Holds members at member
    cases found : racks.find? rack with
    | none => simp [found] at member
    | some members =>
      rw [found] at member
      exact ⟨(rack, members), (racks.find?_eq_some_iff rack members).mp found, member⟩

theorem members_of_mem_entries {racks : Racks} {rack : Text} {nodes : KeySet Text}
    (entry : (rack, nodes) ∈ racks.entries) : racks.members rack = nodes := by
  simp [members, (racks.find?_eq_some_iff rack nodes).mpr entry]

/-! New racks. -/

theorem rackName_injective : Function.Injective rackName := by
  intro n m same
  exact Text.ofNat_injective (List.append_cancel_left same)

/-- There are not enough racks to use up all the names that are tried. -/
theorem contains_freeName (racks : Racks) : racks.contains racks.freeName = false := by
  unfold freeName
  cases found : (List.range (racks.size + 1)).find? fun number =>
      !racks.contains (rackName number) with
  | some number => simpa using List.find?_some found
  | none =>
    have used : (List.range (racks.size + 1)).map rackName ⊆ racks.keys := by
      intro name member
      obtain ⟨number, inRange, rfl⟩ := List.mem_map.mp member
      have taken := List.find?_eq_none.mp found number inRange
      exact Table.mem_keys_iff.mpr (by simpa using taken)
    have distinct : ((List.range (racks.size + 1)).map rackName).Nodup :=
      List.Nodup.map rackName_injective List.nodup_range
    have bound := (List.subperm_of_subset distinct used).length_le
    simp only [List.length_map, List.length_range, Table.keys] at bound
    exact absurd bound (Nat.not_succ_le_self _)

theorem holds_put_empty_iff {racks : Racks} {fresh : Text} (unused : racks.contains fresh = false)
    (rack node : Text) : Holds (racks.put fresh .empty) rack node ↔ racks.Holds rack node := by
  unfold Holds members
  rw [Table.find?_put]
  by_cases same : rack = fresh
  · subst rack
    rw [Table.contains_eq_isSome_find?, Option.isSome_eq_false_iff, Option.isNone_iff_eq_none]
      at unused
    simp [unused]
  · simp [same]

theorem holds_withFresh_iff (count : Nat) (racks : Racks) (rack node : Text) :
    (racks.withFresh count).Holds rack node ↔ racks.Holds rack node := by
  induction count generalizing racks with
  | zero => rfl
  | succ count ih =>
    rw [withFresh, ih, holds_put_empty_iff racks.contains_freeName]

theorem holds_withAtLeast_iff (minimum : Int) (racks : Racks) (rack node : Text) :
    (racks.withAtLeast minimum).Holds rack node ↔ racks.Holds rack node :=
  holds_withFresh_iff _ _ _ _

/-! The choice for one node. -/

theorem mem_of_leastPopulated {racks : List (Text × KeySet Text)} {rack : Text × KeySet Text}
    (least : leastPopulated racks = some rack) : rack ∈ racks := by
  induction racks generalizing rack with
  | nil => simp [leastPopulated] at least
  | cons first rest ih =>
    unfold leastPopulated at least
    cases ofRest : leastPopulated rest with
    | none =>
      simp only [ofRest, Option.some.injEq] at least
      simp [least]
    | some other =>
      simp only [ofRest] at least
      split at least
      · exact List.mem_cons_of_mem _ (ih (ofRest.trans least))
      · simp [Option.some.inj least]

section

variable {racks : Racks} {minimum : Int} {zones : Zones} {node : Node}

theorem place_of_some {chosen : Text × KeySet Text}
    (least : leastPopulated
      (candidates zones (targetZone zones node) (racks.withAtLeast minimum)) = some chosen) :
    racks.place minimum zones node = .done (racks.withAtLeast minimum) chosen.1 := by
  simp only [place, least]

theorem place_of_none
    (none : leastPopulated
      (candidates zones (targetZone zones node) (racks.withAtLeast minimum)) = none) :
    racks.place minimum zones node =
      if targetZone zones node = [] then .failed (racks.withAtLeast minimum) .noRack
      else
        ⟨(racks.withAtLeast minimum).put (racks.withAtLeast minimum).freeName .empty,
          [.rackOpened (targetZone zones node) (racks.withAtLeast minimum).freeName node.name],
          .ok (racks.withAtLeast minimum).freeName⟩ := by
  simp only [place, none, List.isEmpty_iff]

end

theorem holds_place_iff (racks : Racks) (minimum : Int) (zones : Zones) (node : Node)
    (rack member : Text) :
    (racks.place minimum zones node).state.Holds rack member ↔ racks.Holds rack member := by
  rw [← holds_withAtLeast_iff minimum racks]
  cases least : leastPopulated
      (candidates zones (targetZone zones node) (racks.withAtLeast minimum)) with
  | some chosen =>
    rw [place_of_some least]
    rfl
  | none =>
    rw [place_of_none least]
    split
    · rfl
    · exact holds_put_empty_iff (contains_freeName _) rack member

theorem exists_of_admits {zones : Zones} {zone : Text} {members : KeySet Text} {member : Text}
    (admitted : admits zones zone members = true) (inside : members.contains member = true) :
    ∃ other, members.contains other = true ∧ zones.find? other = some zone := by
  unfold admits at admitted
  rcases Bool.or_eq_true_iff.mp admitted with none | some
  · rw [Table.isEmpty_iff.mp none member] at inside
    exact absurd inside (by simp)
  · obtain ⟨other, listed, zoneOfOther⟩ := List.any_eq_true.mp some
    exact ⟨other, Table.mem_keys_iff.mp listed, by simpa using zoneOfOther⟩

theorem exists_sameZone_of_place {racks : Racks} {minimum : Int} {zones : Zones} {node : Node}
    {rack member : Text} (chosen : (racks.place minimum zones node).result = .ok rack)
    (zoned : targetZone zones node ≠ []) (inside : racks.Holds rack member) :
    ∃ other, racks.Holds rack other ∧ zones.find? other = some (targetZone zones node) := by
  simp only [← holds_withAtLeast_iff minimum racks] at inside ⊢
  cases least : leastPopulated
      (candidates zones (targetZone zones node) (racks.withAtLeast minimum)) with
  | none =>
    rw [place_of_none least, if_neg zoned, Except.ok.injEq] at chosen
    have absent : (racks.withAtLeast minimum).find? rack = none := by
      have unused := contains_freeName (racks.withAtLeast minimum)
      rwa [chosen, Table.contains_eq_isSome_find?, Option.isSome_eq_false_iff,
        Option.isNone_iff_eq_none] at unused
    simp [Holds, members, absent] at inside
  | some found =>
    obtain ⟨name, nodes⟩ := found
    rw [place_of_some least] at chosen
    obtain rfl : name = rack := Except.ok.inj chosen
    have listed := mem_of_leastPopulated least
    simp only [candidates, List.isEmpty_iff, zoned, ↓reduceIte, List.mem_filter] at listed
    unfold Holds at inside ⊢
    rw [members_of_mem_entries listed.1] at inside ⊢
    exact exists_of_admits listed.2 inside

end Racks
end ClusterTopology
