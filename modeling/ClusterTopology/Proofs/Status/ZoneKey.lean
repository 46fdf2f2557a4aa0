import ClusterTopology.Proofs.Status.Faults

/-!
What goes with the deprecated keys. Just those go that have the same values as the key in their
place; all others stay with their values and nodes, and a second time nothing goes. Of the zone keys
with enough values one is always left, since what takes the place of a zone key is a zone key as well
and has as many values.
-/

namespace ClusterTopology.Topology

/-- A deprecated key under which the same set of values is recorded as under the key that took its
place, which is there. -/
def RepeatsSuccessor (t : Topology Text) (key : Text) : Prop :=
  ∃ entry ∈ deprecatedKeys, key ∈ entry.2 ∧ t.hasKey entry.1 = true
    ∧ ∀ value, t.hasValue key value = true ↔ t.hasValue entry.1 value = true

section

variable {t : Topology Text} {spec : ClusterSpec} {key other : Text}

theorem keys_valuesOf_eq_iff :
    (t.valuesOf key).keys = (t.valuesOf other).keys ↔
      ∀ value, t.hasValue key value = true ↔ t.hasValue other value = true := by
  simp only [← mem_keys_valuesOf_iff]
  constructor
  · intro same value
    rw [same]
  · exact Table.keys_eq_of_mem_iff

theorem redundant_iff_repeatsSuccessor : t.Redundant key ↔ t.RepeatsSuccessor key := by
  unfold Redundant RepeatedIn RepeatsSuccessor
  simp only [keys_valuesOf_eq_iff]

theorem RepeatsSuccessor.hasKey (repeats : t.RepeatsSuccessor key) : t.hasKey key = true := by
  obtain ⟨entry, _, _, there, same⟩ := repeats
  obtain ⟨value, found⟩ := hasKey_iff_exists_hasValue.mp there
  exact hasKey_iff_exists_hasValue.mpr ⟨value, (same value).mpr found⟩

theorem hasKey_dropDeprecated_iff :
    t.dropDeprecated.state.hasKey key = true ↔
      t.hasKey key = true ∧ ¬t.RepeatsSuccessor key := by
  rw [hasKey_iff, find?_dropDeprecated, ← redundant_iff_repeatsSuccessor]
  by_cases redundant : t.Redundant key
  · simp [redundant]
  · simp [redundant, hasKey_iff]

theorem hasZoneKey_dropDeprecated_iff :
    t.dropDeprecated.state.HasZoneKey spec key ↔
      t.HasZoneKey spec key ∧ ¬t.RepeatsSuccessor key := by
  unfold HasZoneKey
  constructor
  · rintro ⟨left, named, enough⟩
    rw [valuesOf_dropDeprecated left] at enough
    obtain ⟨there, unrepeated⟩ := hasKey_dropDeprecated_iff.mp left
    exact ⟨⟨there, named, enough⟩, unrepeated⟩
  · rintro ⟨⟨there, named, enough⟩, unrepeated⟩
    have left := hasKey_dropDeprecated_iff.mpr ⟨there, unrepeated⟩
    rw [← valuesOf_dropDeprecated left] at enough
    exact ⟨left, named, enough⟩

/-- Where a zone key goes, the one in its place is left and has as many values. -/
theorem HasZoneKey.exists_left (zone : t.HasZoneKey spec key) :
    ∃ other, t.dropDeprecated.state.HasZoneKey spec other := by
  by_cases repeats : t.RepeatsSuccessor key
  · have zoneBesides : ∀ entry ∈ deprecatedKeys, ∀ key ∈ entry.2,
        Text.occursIn FailureDomain.zone key = true →
          Text.occursIn FailureDomain.zone entry.1 = true := by decide
    have notDeprecated : ∀ entry ∈ deprecatedKeys, ∀ other ∈ deprecatedKeys,
        entry.1 ∉ other.2 := by decide
    obtain ⟨_, named, enough⟩ := zone
    obtain ⟨entry, member, among, there, same⟩ := repeats
    refine ⟨entry.1, hasZoneKey_dropDeprecated_iff.mpr ⟨⟨there, ?_, ?_⟩, ?_⟩⟩
    · exact zoneBesides entry member key among named
    · rwa [Table.size_eq_length_keys, keys_valuesOf_eq_iff.mpr same,
        ← Table.size_eq_length_keys] at enough
    · rintro ⟨other, listed, again, _⟩
      exact notDeprecated entry member other listed again
  · exact ⟨key, hasZoneKey_dropDeprecated_iff.mpr ⟨zone, repeats⟩⟩

end

/-- Dropping the deprecated keys never fails. Just those go that only repeat the key in their place;
the others stay with their values and nodes, and a second time nothing goes. A zone key with enough
values is found afterwards if and only if one is found before, and it is the same one unless that one
is dropped. -/
theorem dropped_keys_never_decide (t : Topology Text) (spec : ClusterSpec) :
    ∃ left, t.dropDeprecated = .done left ()
      ∧ (∀ key, (t.hasKey key = true ∧ left.hasKey key = false) ↔ t.RepeatsSuccessor key)
      ∧ (∀ key, ¬t.RepeatsSuccessor key → left.table.find? key = t.table.find? key)
      ∧ left.dropDeprecated = .done left ()
      ∧ ((∃ key, left.zoneKey? spec.minimumZones left.keys = .ok (some key)) ↔
        ∃ key, t.zoneKey? spec.minimumZones t.keys = .ok (some key))
      ∧ ∀ key, t.zoneKey? spec.minimumZones t.keys = .ok (some key) → ¬t.RepeatsSuccessor key →
        left.zoneKey? spec.minimumZones left.keys = .ok (some key) := by
  refine ⟨_, t.dropDeprecated_eq, fun key => ?_, fun key unrepeated => ?_,
    t.trimmed_dropDeprecated.dropDeprecated_eq_done, ?_, fun key found unrepeated => ?_⟩
  · rw [← Bool.not_eq_true, hasKey_dropDeprecated_iff]
    constructor
    · rintro ⟨there, gone⟩
      exact not_not.mp fun unrepeated => gone ⟨there, unrepeated⟩
    · intro repeats
      exact ⟨repeats.hasKey, fun left => left.2 repeats⟩
  · rw [find?_dropDeprecated, if_neg]
    exact fun redundant => unrepeated (redundant_iff_repeatsSuccessor.mp redundant)
  · rw [exists_zoneKey?_iff, exists_zoneKey?_iff]
    constructor
    · rintro ⟨key, zone⟩
      exact ⟨key, (hasZoneKey_dropDeprecated_iff.mp zone).1⟩
    · rintro ⟨key, zone⟩
      exact zone.exists_left
  · obtain ⟨zone, first⟩ := zoneKey?_eq_some_iff.mp found
    refine zoneKey?_eq_some_iff.mpr ⟨hasZoneKey_dropDeprecated_iff.mpr ⟨zone, unrepeated⟩, ?_⟩
    exact fun other zoneOther => first other (hasZoneKey_dropDeprecated_iff.mp zoneOther).1

/-! Three zones under two keys, of which the first only repeats the second. -/

def deprecatedZone : Text := "failure-domain.beta.kubernetes.io/zone"

def zonesTwice : Topology Text :=
  [deprecatedZone, "topology.kubernetes.io/zone"].foldl
    (fun t key => (["a", "b", "c"] : List Text).foldl (fun t zone => t.addValue key zone) t) empty

theorem zoneKey_zonesTwice :
    zonesTwice.zoneKey? ClusterSpec.standard.minimumZones zonesTwice.keys =
      .ok (some deprecatedZone) :=
  rfl

theorem other_zone_found_in_zonesTwice :
    zonesTwice.RepeatsSuccessor deprecatedZone
      ∧ ∃ left key, zonesTwice.dropDeprecated = .done left () ∧ key ≠ deprecatedZone
        ∧ left.zoneKey? ClusterSpec.standard.minimumZones left.keys = .ok (some key) := by
  have repeats : zonesTwice.RepeatsSuccessor deprecatedZone :=
    redundant_iff_repeatsSuccessor.mp (by decide)
  obtain ⟨left, dropped, gone, _, _, found, _⟩ := dropped_keys_never_decide zonesTwice .standard
  obtain ⟨key, zone⟩ := found.mpr ⟨_, zoneKey_zonesTwice⟩
  refine ⟨repeats, left, key, dropped, ?_, zone⟩
  rintro rfl
  have absent := ((gone deprecatedZone).mpr repeats).2
  rw [(zoneKey?_eq_some_iff.mp zone).1.1] at absent
  exact absurd absent (by simp)

end ClusterTopology.Topology
