import ClusterTopology.Proofs.Outcome
import ClusterTopology.Proofs.Topology.Record
import ClusterTopology.Topology.Lineage

/-!
Dropping deprecated keys of a topology of texts. It never fails, it removes just the keys that
repeat the one in their place, and it finds nothing to remove a second time. Since no rack key is
deprecated or takes the place of another, changes of the racks do not matter to it.
-/

namespace ClusterTopology

theorem sameNames_iff {names others : List Text} : sameNames names others = true ↔ names = others := by
  induction names generalizing others with
  | nil => cases others <;> simp [sameNames]
  | cons name names ih =>
    cases others with
    | nil => simp [sameNames]
    | cons other others => simp [sameNames, ih, LawfulKey.same_iff]

namespace Topology

section

variable (t : Topology Text)

theorem hasKey_iff {t : Topology Text} {key : Text} :
    t.hasKey key = true ↔ ∃ values, t.table.find? key = some values :=
  Table.contains_iff

theorem find?_of_not_hasKey {t : Topology Text} {key : Text} (absent : t.hasKey key = false) :
    t.table.find? key = none := by
  cases found : t.table.find? key with
  | none => rfl
  | some values =>
    have present : t.hasKey key = true := hasKey_iff.mpr ⟨values, found⟩
    rw [absent] at present
    exact absurd present (by simp)

theorem find?_removeKey (key other : Text) :
    (t.removeKey key).table.find? other = if other = key then none else t.table.find? other :=
  Table.find?_erase t.table key other

theorem hasKey_congr {t u : Topology Text} {key : Text}
    (same : t.table.find? key = u.table.find? key) : t.hasKey key = u.hasKey key := by
  unfold hasKey
  rw [Table.contains_eq_isSome_find?, Table.contains_eq_isSome_find?, same]

theorem exists_dropEqual (values : List Text) (keys : List Text) :
    ∃ left, dropEqual values keys t = .done left ()
      ∧ ∀ key, left.table.find? key =
        if key ∈ keys ∧ (t.valuesOf key).keys = values then none else t.table.find? key := by
  induction keys generalizing t with
  | nil => exact ⟨t, rfl, by simp⟩
  | cons first keys ih =>
    cases present : t.hasKey first with
    | false =>
      obtain ⟨left, dropped, kept⟩ := ih t
      refine ⟨left, by simp [dropEqual, present, dropped], fun key => ?_⟩
      rw [kept]
      by_cases same : key = first
      · simp [same, find?_of_not_hasKey present]
      · simp [same]
    | true =>
      by_cases equal : (t.valuesOf first).keys = values
      · obtain ⟨left, dropped, kept⟩ := ih (t.removeKey first)
        refine ⟨left, ?_, fun key => ?_⟩
        · simp only [dropEqual, present, values_eq, sameNames_iff.mpr equal, ↓reduceIte]
          exact dropped
        · rw [kept, find?_removeKey, valuesOf_removeKey]
          by_cases same : key = first
          · simp [same, equal]
          · simp [same]
      · obtain ⟨left, dropped, kept⟩ := ih t
        refine ⟨left, ?_, fun key => ?_⟩
        · have different : sameNames (t.valuesOf first).keys values = false := by
            rw [← Bool.not_eq_true, sameNames_iff]
            exact equal
          simp only [dropEqual, present, values_eq, different, ↓reduceIte]
          exact dropped
        · rw [kept]
          by_cases same : key = first
          · simp [same, equal]
          · simp [same]

def RepeatedIn (lineage : List (Text × List Text)) (key : Text) : Prop :=
  ∃ entry ∈ lineage, key ∈ entry.2 ∧ t.hasKey entry.1 = true
    ∧ (t.valuesOf key).keys = (t.valuesOf entry.1).keys

instance (lineage : List (Text × List Text)) (key : Text) : Decidable (t.RepeatedIn lineage key) :=
  inferInstanceAs (Decidable (∃ entry ∈ lineage, _))

variable {t} in
theorem repeatedIn_cons_iff {kept : Text} {deprecated : List Text}
    {lineage : List (Text × List Text)} {key : Text} :
    t.RepeatedIn ((kept, deprecated) :: lineage) key ↔
      (key ∈ deprecated ∧ t.hasKey kept = true ∧ (t.valuesOf key).keys = (t.valuesOf kept).keys)
        ∨ t.RepeatedIn lineage key := by
  unfold RepeatedIn
  constructor
  · rintro ⟨entry, member, found⟩
    rcases List.mem_cons.mp member with rfl | member
    · exact Or.inl found
    · exact Or.inr ⟨entry, member, found⟩
  · rintro (found | ⟨entry, member, found⟩)
    · exact ⟨_, List.mem_cons_self, found⟩
    · exact ⟨entry, List.mem_cons_of_mem _ member, found⟩

/-- Whether a key is repeated is decided by what is recorded under it and under the keys that take
the place of others. -/
theorem RepeatedIn.congr {t u : Topology Text} {lineage : List (Text × List Text)} {key : Text}
    (sameKept : ∀ entry ∈ lineage, u.table.find? entry.1 = t.table.find? entry.1)
    (sameKey : u.table.find? key = t.table.find? key) (repeated : u.RepeatedIn lineage key) :
    t.RepeatedIn lineage key := by
  obtain ⟨entry, member, among, recorded, equal⟩ := repeated
  rw [hasKey_congr (sameKept entry member)] at recorded
  rw [valuesOf_congr sameKey, valuesOf_congr (sameKept entry member)] at equal
  exact ⟨entry, member, among, recorded, equal⟩

/-- As long as no key that takes the place of another is deprecated itself, the repeated keys go. -/
theorem exists_dropAll (lineage : List (Text × List Text))
    (settled : ∀ entry ∈ lineage, ∀ other ∈ lineage, entry.1 ∉ other.2) :
    ∃ left, dropAll lineage t = .done left ()
      ∧ ∀ key, left.table.find? key =
        if t.RepeatedIn lineage key then none else t.table.find? key := by
  induction lineage generalizing t with
  | nil => exact ⟨t, rfl, by simp [RepeatedIn]⟩
  | cons first lineage ih =>
    have later : ∀ entry ∈ lineage, ∀ other ∈ lineage, entry.1 ∉ other.2 :=
      fun entry member other inRest =>
        settled entry (List.mem_cons_of_mem _ member) other (List.mem_cons_of_mem _ inRest)
    obtain ⟨kept, deprecated⟩ := first
    cases present : t.hasKey kept with
    | false =>
      obtain ⟨left, dropped, rest⟩ := ih t later
      refine ⟨left, by simp [dropAll, present, dropped], fun key => ?_⟩
      rw [rest]
      simp [repeatedIn_cons_iff, present]
    | true =>
      obtain ⟨middle, dropped, first⟩ := t.exists_dropEqual (t.valuesOf kept).keys deprecated
      obtain ⟨left, droppedRest, rest⟩ := ih middle later
      refine ⟨left, ?_, fun key => ?_⟩
      · simp only [dropAll, present, values_eq, dropped, Outcome.done_andThen, ↓reduceIte]
        exact droppedRest
      · rw [rest, first]
        simp only [repeatedIn_cons_iff, present, true_and]
        by_cases gone : key ∈ deprecated ∧ (t.valuesOf key).keys = (t.valuesOf kept).keys
        · simp [gone]
        · -- The first step touched neither the key nor any that stays for others.
          have sameKept : ∀ entry ∈ lineage, middle.table.find? entry.1 = t.table.find? entry.1 := by
            intro entry member
            rw [first, if_neg]
            rintro ⟨among, _⟩
            exact settled entry (List.mem_cons_of_mem _ member) _ List.mem_cons_self among
          have sameKey : middle.table.find? key = t.table.find? key := by rw [first, if_neg gone]
          have repeated : middle.RepeatedIn lineage key ↔ t.RepeatedIn lineage key :=
            ⟨.congr sameKept sameKey,
              .congr (fun entry member => (sameKept entry member).symm) sameKey.symm⟩
          simp only [repeated, gone, false_or, ↓reduceIte]

def Redundant (key : Text) : Prop := t.RepeatedIn deprecatedKeys key

instance (key : Text) : Decidable (t.Redundant key) :=
  inferInstanceAs (Decidable (t.RepeatedIn deprecatedKeys key))

theorem exists_dropDeprecated :
    ∃ left, t.dropDeprecated = .done left ()
      ∧ ∀ key, left.table.find? key = if t.Redundant key then none else t.table.find? key :=
  t.exists_dropAll deprecatedKeys (by decide)

theorem dropDeprecated_eq : t.dropDeprecated = .done t.dropDeprecated.state () := by
  obtain ⟨left, dropped, _⟩ := t.exists_dropDeprecated
  rw [dropped]
  rfl

theorem find?_dropDeprecated (key : Text) :
    t.dropDeprecated.state.table.find? key =
      if t.Redundant key then none else t.table.find? key := by
  obtain ⟨left, dropped, kept⟩ := t.exists_dropDeprecated
  rw [dropped]
  exact kept key

end

def Trimmed (t : Topology Text) : Prop := ∀ key, t.Redundant key → t.table.find? key = none

theorem Trimmed.dropDeprecated_eq_done {t : Topology Text} (trimmed : t.Trimmed) :
    t.dropDeprecated = .done t () := by
  obtain ⟨left, dropped, kept⟩ := t.exists_dropDeprecated
  have same : left = t := by
    apply Topology.ext
    apply Table.ext_find?
    intro key
    rw [kept]
    by_cases redundant : t.Redundant key
    · rw [if_pos redundant, trimmed key redundant]
    · rw [if_neg redundant]
  rw [dropped, same]

theorem find?_dropDeprecated_of_kept (t : Topology Text) {entry : Text × List Text}
    (member : entry ∈ deprecatedKeys) :
    t.dropDeprecated.state.table.find? entry.1 = t.table.find? entry.1 := by
  have kept : ∀ entry ∈ deprecatedKeys, ∀ other ∈ deprecatedKeys, entry.1 ∉ other.2 := by decide
  rw [find?_dropDeprecated, if_neg]
  rintro ⟨other, listed, among, _⟩
  exact kept entry member other listed among

theorem valuesOf_dropDeprecated {t : Topology Text} {key : Text}
    (left : t.dropDeprecated.state.hasKey key = true) :
    t.dropDeprecated.state.valuesOf key = t.valuesOf key := by
  obtain ⟨values, found⟩ := hasKey_iff.mp left
  have kept := t.find?_dropDeprecated key
  rw [found] at kept
  split at kept
  · exact absurd kept (by simp)
  · exact valuesOf_congr (found.trans kept)

theorem find?_rackKey_dropDeprecated (t : Topology Text) :
    t.dropDeprecated.state.table.find? rackKey = t.table.find? rackKey := by
  have noRack : ∀ entry ∈ deprecatedKeys, rackKey ∉ entry.2 := by decide
  rw [find?_dropDeprecated, if_neg]
  rintro ⟨entry, member, among, _⟩
  exact noRack entry member among

theorem trimmed_dropDeprecated (t : Topology Text) : t.dropDeprecated.state.Trimmed := by
  intro key redundantLeft
  by_cases redundant : t.Redundant key
  · rw [find?_dropDeprecated, if_pos redundant]
  · have same : t.dropDeprecated.state.table.find? key = t.table.find? key := by
      rw [find?_dropDeprecated, if_neg redundant]
    exact absurd
      (redundantLeft.congr (fun _ member => t.find?_dropDeprecated_of_kept member) same) redundant

/-- Whether keys are redundant does not depend on the recorded racks. -/
theorem Trimmed.of_same_but_racks {t u : Topology Text} (trimmed : t.Trimmed)
    (same : ∀ key, key ≠ rackKey → u.table.find? key = t.table.find? key) : u.Trimmed := by
  have noRack : ∀ entry ∈ deprecatedKeys, entry.1 ≠ rackKey ∧ rackKey ∉ entry.2 := by decide
  intro key redundant
  have keyOther : key ≠ rackKey := by
    obtain ⟨entry, member, among, _⟩ := redundant
    rintro rfl
    exact (noRack entry member).2 among
  rw [same key keyOther]
  exact trimmed key
    (redundant.congr (fun entry member => same _ (noRack entry member).1) (same key keyOther))

theorem isEmpty_dropDeprecated (t : Topology Text) :
    t.dropDeprecated.state.isEmpty = t.isEmpty := by
  rw [Bool.eq_iff_iff]
  unfold isEmpty
  rw [Table.isEmpty_iff, Table.isEmpty_iff]
  constructor
  · intro nothing key
    have gone : t.dropDeprecated.state.hasKey key = false := nothing key
    have absent := find?_of_not_hasKey gone
    rw [find?_dropDeprecated] at absent
    by_cases redundant : t.Redundant key
    · -- The key in whose place it stands would still be there.
      obtain ⟨entry, member, _, recorded, _⟩ := redundant
      have still : t.dropDeprecated.state.hasKey entry.1 = true := by
        rw [hasKey_congr (t.find?_dropDeprecated_of_kept member)]
        exact recorded
      rw [show t.dropDeprecated.state.hasKey entry.1 = false from nothing entry.1] at still
      exact absurd still (by simp)
    · rw [if_neg redundant] at absent
      rw [Table.contains_eq_isSome_find?, absent]
      rfl
  · intro nothing key
    have absent : t.table.find? key = none := find?_of_not_hasKey (nothing key)
    rw [Table.contains_eq_isSome_find?, find?_dropDeprecated, absent]
    simp

theorem eq_empty_of_isEmpty {t : Topology Text} (nothing : t.isEmpty = true) :
    t = empty := by
  apply Topology.ext
  apply Table.ext_find?
  intro key
  exact (find?_of_not_hasKey (Table.isEmpty_iff.mp nothing key)).trans (Table.find?_empty key).symm

end Topology
end ClusterTopology
