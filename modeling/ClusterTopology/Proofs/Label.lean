import ClusterTopology.Label
import ClusterTopology.Proofs.Table

/-!
The change from one set of labels to another, key by key. Merged into the first set it gives the
second, and whatever else does so speaks of all its keys.
-/

namespace ClusterTopology.Labels

variable (old new : Labels)

def saidEntries : List (Text × Option Text) :=
  (new.entries.filter fun (key, value) => !say old key value).map fun (key, value) => (key, some value)

def goneEntries : List (Text × Option Text) :=
  (old.entries.filter fun (key, _) => !new.contains key).map fun (key, _) => (key, none)

theorem change_eq : change old new = Table.ofList (saidEntries old new ++ goneEntries old new) := rfl

variable {old new}

theorem mem_saidEntries_iff {key : Text} {value : Option Text} :
    (key, value) ∈ saidEntries old new ↔
      value ≠ none ∧ new.find? key = value ∧ old.find? key ≠ value := by
  simp only [saidEntries, List.mem_map, List.mem_filter, Prod.exists, Prod.mk.injEq, Bool.not_eq_true']
  constructor
  · rintro ⟨other, said, ⟨member, silent⟩, rfl, rfl⟩
    refine ⟨by simp, (new.find?_eq_some_iff _ _).mpr member, ?_⟩
    intro equal
    rw [(say_iff old other said).mpr equal] at silent
    exact absurd silent (by simp)
  · rintro ⟨some, found, different⟩
    obtain ⟨said, rfl⟩ := Option.ne_none_iff_exists'.mp some
    refine ⟨key, said, ⟨(new.find?_eq_some_iff _ _).mp found, ?_⟩, rfl, rfl⟩
    rw [← Bool.not_eq_true, say_iff]
    exact different

theorem mem_goneEntries_iff {key : Text} {value : Option Text} :
    (key, value) ∈ goneEntries old new ↔
      value = none ∧ old.contains key = true ∧ new.contains key = false := by
  simp only [goneEntries, List.mem_map, List.mem_filter, Prod.exists, Prod.mk.injEq,
    Bool.not_eq_true']
  constructor
  · rintro ⟨other, said, ⟨member, absent⟩, rfl, rfl⟩
    exact ⟨rfl, Table.contains_iff.mpr ⟨said, (old.find?_eq_some_iff _ _).mpr member⟩, absent⟩
  · rintro ⟨rfl, there, absent⟩
    obtain ⟨said, found⟩ := Table.contains_iff.mp there
    exact ⟨key, said, ⟨(old.find?_eq_some_iff _ _).mp found, absent⟩, rfl, rfl⟩

theorem nodup_entries (old new : Labels) :
    ((saidEntries old new ++ goneEntries old new).map Prod.fst).Nodup := by
  rw [List.map_append, List.nodup_append]
  refine ⟨?_, ?_, ?_⟩
  · have sublist : ((saidEntries old new).map Prod.fst).Sublist new.keys := by
      rw [saidEntries, List.map_map]
      exact List.filter_sublist.map Prod.fst
    exact new.keys_nodup.sublist sublist
  · have sublist : ((goneEntries old new).map Prod.fst).Sublist old.keys := by
      rw [goneEntries, List.map_map]
      exact List.filter_sublist.map Prod.fst
    exact old.keys_nodup.sublist sublist
  · -- What goes away is not among the new labels.
    rintro key said other gone rfl
    obtain ⟨⟨_, value⟩, saidMember, rfl⟩ := List.mem_map.mp said
    obtain ⟨⟨_, nothing⟩, goneMember, rfl⟩ := List.mem_map.mp gone
    obtain ⟨some, found, _⟩ := mem_saidEntries_iff.mp saidMember
    obtain ⟨_, _, absent⟩ := mem_goneEntries_iff.mp goneMember
    rw [Table.contains_eq_isSome_find?, found, Option.isSome_eq_false_iff] at absent
    exact some (Option.isNone_iff_eq_none.mp absent)

theorem find?_change (old new : Labels) (key : Text) :
    (change old new).find? key =
      if old.find? key = new.find? key then none else some (new.find? key) := by
  rw [change_eq]
  by_cases same : old.find? key = new.find? key
  · rw [if_pos same]
    apply Table.find?_foldl_put_of_not_mem Prod.fst Prod.snd _ Table.empty key
    rintro ⟨_, value⟩ member rfl
    rcases List.mem_append.mp member with said | gone
    · obtain ⟨_, found, different⟩ := mem_saidEntries_iff.mp said
      exact different (same.trans found)
    · obtain ⟨_, there, absent⟩ := mem_goneEntries_iff.mp gone
      rw [Table.contains_eq_isSome_find?] at there absent
      rw [same, absent] at there
      exact absurd there (by simp)
  · rw [if_neg same]
    have listed : (key, new.find? key) ∈ saidEntries old new ++ goneEntries old new := by
      rw [List.mem_append, mem_saidEntries_iff, mem_goneEntries_iff]
      cases found : new.find? key with
      | some value => exact Or.inl ⟨by simp, rfl, fun equal => same (equal.trans found.symm)⟩
      | none =>
        refine Or.inr ⟨rfl, ?_, ?_⟩
        · rw [Table.contains_eq_isSome_find?, Option.isSome_iff_ne_none]
          exact fun equal => same (equal.trans found.symm)
        · rw [Table.contains_eq_isSome_find?, found]
          rfl
    exact (Table.find?_ofList_eq_some_iff (nodup_entries old new)).mpr listed

/-- The change that sets one label: nothing when the label says so already. -/
theorem change_put (labels : Labels) (key value : Text) :
    change labels (labels.put key value) =
      if labels.find? key = some value then .empty else Table.ofList [(key, some value)] := by
  apply Table.ext_find?
  intro other
  rw [find?_change, Table.find?_put]
  by_cases here : other = key
  · subst here
    by_cases said : labels.find? other = some value
    · simp [said]
    · simp [said, Table.ofList, Table.find?_put]
  · by_cases said : labels.find? key = some value <;> simp [here, said, Table.ofList, Table.find?_put]

/-- A change decides for the keys that it speaks of, and the others stay as they are. -/
theorem find?_merge {α : Type} (labels : Table Text α) (change : Table Text (Option α)) (key : Text) :
    (merge labels change).find? key = (change.find? key).getD (labels.find? key) := by
  obtain ⟨entries, ordered⟩ := change
  induction entries generalizing labels with
  | nil => rfl
  | cons entry rest ih =>
    obtain ⟨changed, value⟩ := entry
    have ⟨first, tail⟩ := List.pairwise_cons.mp ordered
    let step : Table Text α := match value with
      | some value => labels.put changed value
      | none => labels.erase changed
    have merged : merge labels ⟨(changed, value) :: rest, ordered⟩ = merge step ⟨rest, tail⟩ := by
      cases value <;> rfl
    have found : step.find? key = if key = changed then value else labels.find? key := by
      cases value with
      | some value => exact Table.find?_put labels changed key value
      | none => exact Table.find?_erase labels changed key
    rw [merged, ih step tail, found, Table.find?_cons]
    by_cases here : changed = key
    · subst here
      have later : Table.find? ⟨rest, tail⟩ changed = none := by
        cases again : Table.find? ⟨rest, tail⟩ changed with
        | none => rfl
        | some other =>
          have listed := (Table.find?_eq_some_iff ⟨rest, tail⟩ changed other).mp again
          exact absurd rfl (Table.ne_of_before (first (changed, other) listed))
      simp [later]
    · simp [here, Ne.symm here]

theorem merge_change (old new : Labels) : merge old (change old new) = new := by
  apply Table.ext_find?
  intro key
  rw [find?_merge, find?_change]
  by_cases same : old.find? key = new.find? key <;> simp [same]

theorem isEmpty_change_iff : (change old new).isEmpty = true ↔ old = new := by
  rw [Table.isEmpty_iff]
  constructor
  · intro nothing
    apply Table.ext_find?
    intro key
    have unsaid := nothing key
    rw [Table.contains_eq_isSome_find?, find?_change] at unsaid
    by_cases same : old.find? key = new.find? key
    · exact same
    · rw [if_neg same] at unsaid
      exact absurd unsaid (by simp)
  · rintro rfl key
    rw [Table.contains_eq_isSome_find?, find?_change, if_pos rfl]
    rfl

/-- No other way to the same labels speaks of fewer keys. -/
theorem contains_of_merge_eq {other : Table Text (Option Text)} (leads : merge old other = new)
    {key : Text} (spoken : (change old new).contains key = true) : other.contains key = true := by
  rw [Table.contains_eq_isSome_find?] at spoken ⊢
  cases unspoken : other.find? key with
  | some value => rfl
  | none =>
    have same : old.find? key = new.find? key := by
      rw [← leads, find?_merge, unspoken, Option.getD_none]
    rw [find?_change, if_pos same] at spoken
    exact absurd spoken (by simp)

end ClusterTopology.Labels
