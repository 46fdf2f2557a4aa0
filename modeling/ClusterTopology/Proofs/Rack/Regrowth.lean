import ClusterTopology.Proofs.Rack.Choice

/-!
Racks that are made anew. A pass forgets the racks in which nobody stands, and the next one makes as
many again. A new name is the first that is free, and a rack that got a node keeps its name in use;
so the racks that are made anew are those that were forgotten.
-/

namespace ClusterTopology.Racks

variable {racks : Racks} {rack : Text} {members : KeySet Text}

theorem exists_freeName_eq (racks : Racks) : ∃ number, racks.freeName = rackName number
    ∧ ∀ smaller < number, racks.contains (rackName smaller) = true := by
  unfold freeName
  cases found : (List.range (racks.size + 1)).find? fun number =>
      !racks.contains (rackName number) with
  | some number =>
    refine ⟨number, rfl, fun smaller less => ?_⟩
    simpa using (List.find?_range_eq_some.mp found).2.2 smaller less
  | none =>
    refine ⟨racks.size, rfl, fun smaller less => ?_⟩
    simpa using List.find?_eq_none.mp found smaller (List.mem_range.mpr (by omega))

/-- The free name is the one with the least number that is not in use. -/
theorem freeName_eq_iff {number : Nat} :
    racks.freeName = rackName number ↔
      racks.contains (rackName number) = false
        ∧ ∀ smaller < number, racks.contains (rackName smaller) = true := by
  obtain ⟨first, named, used⟩ := exists_freeName_eq racks
  have unused : racks.contains (rackName first) = false := named ▸ racks.contains_freeName
  constructor
  · intro same
    obtain rfl : first = number := rackName_injective (named.symm.trans same)
    exact ⟨unused, used⟩
  · rintro ⟨free, usedBelow⟩
    rw [named]
    rcases Nat.lt_trichotomy first number with less | same | greater
    · rw [usedBelow first less] at unused
      exact absurd unused (by simp)
    · rw [same]
    · rw [used number greater] at free
      exact absurd free (by simp)

/-- A name stays the first free one when another name is taken. -/
theorem freeName_put_of_ne (different : rack ≠ racks.freeName) :
    freeName (racks.put rack members) = racks.freeName := by
  obtain ⟨number, named, used⟩ := exists_freeName_eq racks
  rw [named, freeName_eq_iff, ← named]
  refine ⟨?_, fun smaller less => ?_⟩
  · rw [Table.contains_put, contains_freeName, Bool.or_false, decide_eq_false_iff_not]
    exact different.symm
  · rw [Table.contains_put, used smaller less, Bool.or_true]

theorem withFresh_put_of_contains (there : racks.contains rack = true) (count : Nat) :
    withFresh count (racks.put rack members) = (racks.withFresh count).put rack members := by
  induction count generalizing racks with
  | zero => rfl
  | succ count ih =>
    have different : rack ≠ racks.freeName := by
      rintro rfl
      rw [contains_freeName] at there
      exact absurd there (by simp)
    have kept : (racks.put racks.freeName .empty).contains rack = true := by
      rw [Table.contains_put, there, Bool.or_true]
    rw [withFresh, freeName_put_of_ne different, Table.put_comm _ different, ih kept]
    rfl

theorem withFresh_put_freeName (racks : Racks) (members : KeySet Text) (count : Nat) :
    withFresh count (racks.put racks.freeName members) =
      (racks.withFresh (count + 1)).put racks.freeName members := by
  have there : (racks.put racks.freeName .empty).contains racks.freeName = true := by
    simp [Table.contains_put]
  rw [withFresh, ← withFresh_put_of_contains there, Table.put_put]

/-- If one of the new racks is there before, with whatever stands in it, one less is made. -/
theorem withFresh_put_of_new {count : Nat} (new : racks.contains rack = false)
    (made : (racks.withFresh (count + 1)).contains rack = true) :
    withFresh count (racks.put rack members) = (racks.withFresh (count + 1)).put rack members := by
  induction count generalizing racks with
  | zero =>
    have first : rack = racks.freeName := by
      rw [withFresh, withFresh, Table.contains_put, new, Bool.or_false] at made
      exact of_decide_eq_true made
    rw [first]
    exact withFresh_put_freeName racks members 0
  | succ count ih =>
    by_cases first : rack = racks.freeName
    · rw [first]
      exact withFresh_put_freeName racks members _
    · have newAfter : (racks.put racks.freeName .empty).contains rack = false := by
        rw [Table.contains_put, new, Bool.or_false]
        exact decide_eq_false first
      calc withFresh (count + 1) (racks.put rack members)
          = withFresh count ((racks.put rack members).put racks.freeName .empty) := by
            rw [withFresh, freeName_put_of_ne first]
        _ = withFresh count ((racks.put racks.freeName .empty).put rack members) := by
            rw [Table.put_comm _ first]
        _ = (withFresh (count + 1) (racks.put racks.freeName .empty)).put rack members :=
            ih newAfter made
        _ = (racks.withFresh (count + 1 + 1)).put rack members := rfl

/-- Of the racks that are needed one may get a node before or after the others are made. -/
theorem withAtLeast_addNode {minimum : Int} (there : (racks.withAtLeast minimum).contains rack = true)
    (node : Text) :
    (racks.addNode rack node).withAtLeast minimum = (racks.withAtLeast minimum).addNode rack node := by
  have sameMembers : (racks.withAtLeast minimum).members rack = racks.members rack :=
    members_eq_of_holds_iff (holds_withAtLeast_iff minimum racks rack)
  have added (racks : Racks) :
      racks.addNode rack node = racks.put rack ((racks.members rack).insert node) := rfl
  rw [added, added, sameMembers]
  cases before : racks.contains rack with
  | true =>
    rw [withAtLeast, Table.size_put_of_contains before]
    exact withFresh_put_of_contains before _
  | false =>
    unfold withAtLeast at there ⊢
    rw [Table.size_put_of_new before]
    cases missing : (minimum - racks.size).toNat with
    | zero =>
      rw [missing, withFresh, before] at there
      exact absurd there (by simp)
    | succ count =>
      have fewer : (minimum - (racks.size + 1 : Nat)).toNat = count := by omega
      rw [missing] at there
      rw [fewer]
      exact withFresh_put_of_new before there

/-! The racks during a pass. -/

/-- Without the racks in which nobody stands, the same racks are made up to the number asked for. -/
def Regrows (minimum : Int) (racks : Racks) : Prop :=
  ∃ kernel : Racks, kernel.Inhabited ∧ (∀ rack member, kernel.Holds rack member ↔ racks.Holds rack member)
    ∧ kernel.withAtLeast minimum = racks.withAtLeast minimum

theorem Inhabited.regrows (inhabited : racks.Inhabited) (minimum : Int) : racks.Regrows minimum :=
  ⟨racks, inhabited, fun _ _ => Iff.rfl, rfl⟩

theorem Regrows.withAtLeast_eq {minimum : Int} (regrows : racks.Regrows minimum) {other : Racks}
    (inhabited : other.Inhabited)
    (same : ∀ rack member, other.Holds rack member ↔ racks.Holds rack member) :
    other.withAtLeast minimum = racks.withAtLeast minimum := by
  obtain ⟨kernel, inUse, sameKernel, grown⟩ := regrows
  obtain rfl : other = kernel :=
    ext_holds inhabited inUse fun rack member => (same rack member).trans (sameKernel rack member).symm
  exact grown

/-- A node in one of the racks that are made leaves the others to be made anew. -/
theorem Regrows.addNode {minimum : Int} (regrows : racks.Regrows minimum)
    (there : (racks.withAtLeast minimum).contains rack = true) (node : Text) :
    ((racks.withAtLeast minimum).addNode rack node).Regrows minimum := by
  obtain ⟨kernel, inUse, same, grown⟩ := regrows
  refine ⟨kernel.addNode rack node, inUse.addNode rack node, fun other member => ?_, ?_⟩
  · simp only [holds_addNode_iff, holds_withAtLeast_iff, same]
  · have enough : minimum ≤ ((racks.withAtLeast minimum).addNode rack node).size := by
      have sameSize : ((racks.withAtLeast minimum).addNode rack node).size =
          (racks.withAtLeast minimum).size := Table.size_put_of_contains there _
      rw [sameSize]
      exact le_size_withAtLeast minimum racks
    rw [withAtLeast_addNode (grown ▸ there), grown, withAtLeast_of_le enough]

end ClusterTopology.Racks
