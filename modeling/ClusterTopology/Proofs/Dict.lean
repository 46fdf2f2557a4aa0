import ClusterTopology.Name
import ClusterTopology.Proofs.Table
import Mathlib.Data.List.Nodup

/-!
Dictionaries whose entries stand in the order in which their keys arrived, and the tables that they
stand for. A value is a set, its members listed in any order. A new key comes last, and a known one
keeps its place; what is looked up is the same as in the table, and so is everything that is sorted
before it is read.
-/

namespace ClusterTopology

abbrev Dict := List (Text × List Text)

namespace Dict

def sets (dict : Dict) : List (Text × KeySet Text) :=
  dict.map fun (key, members) => (key, KeySet.ofList members)

def add (dict : Dict) (key member : Text) : Dict :=
  match dict with
  | [] => [(key, [member])]
  | (other, members) :: rest =>
    if key = other then (other, members.insert member) :: rest
    else (other, members) :: add rest key member

def sorted (dict : Dict) : Dict := dict.mergeSort (Key.upTo Prod.fst)

/-- No key and no member is listed twice, and the table has the same sets under the same keys. -/
structure StandsFor (dict : Dict) (table : Table Text (KeySet Text)) : Prop where
  once : (dict.map Prod.fst).Nodup
  distinct : ∀ entry ∈ dict, entry.2.Nodup
  same : ∀ key, (dict.lookup key).map KeySet.ofList = table.find? key

variable {dict : Dict} {table : Table Text (KeySet Text)} {key : Text}

theorem standsFor_nil : StandsFor [] .empty := ⟨.nil, by simp, fun _ => rfl⟩

theorem lookup_eq_some_iff (once : (dict.map Prod.fst).Nodup) {members : List Text} :
    dict.lookup key = some members ↔ (key, members) ∈ dict := by
  induction dict with
  | nil => simp
  | cons entry dict ih =>
    obtain ⟨absent, once⟩ := List.nodup_cons.mp once
    rw [List.lookup_cons, List.mem_cons]
    by_cases here : key = entry.1
    · subst here
      have elsewhere : (entry.1, members) ∉ dict := fun member =>
        absent (List.mem_map.mpr ⟨_, member, rfl⟩)
      simp [elsewhere, Prod.ext_iff, eq_comm]
    · rw [beq_eq_false_iff_ne.mpr here]
      simp [ih once, Prod.ext_iff, here]

theorem StandsFor.perm (stands : dict.StandsFor table) : dict.sets.Perm table.entries := by
  have distinctEntries : dict.sets.Nodup := by
    apply List.Nodup.of_map Prod.fst
    unfold sets
    rw [List.map_map]
    exact stands.once
  have distinctTable : table.entries.Nodup := by
    apply List.Nodup.of_map Prod.fst
    exact table.keys_nodup
  apply (List.perm_ext_iff_of_nodup distinctEntries distinctTable).mpr
  intro ⟨key, set⟩
  rw [← Table.find?_eq_some_iff, ← stands.same, Option.map_eq_some_iff]
  simp only [sets, List.mem_map, Prod.mk.injEq, lookup_eq_some_iff stands.once]
  constructor
  · rintro ⟨⟨_, members⟩, member, rfl, rfl⟩
    exact ⟨members, member, rfl⟩
  · rintro ⟨members, member, rfl⟩
    exact ⟨(key, members), member, rfl, rfl⟩

theorem StandsFor.length_eq (stands : dict.StandsFor table) : dict.length = table.size := by
  have same := stands.perm.length_eq
  rwa [sets, List.length_map] at same

theorem StandsFor.isSome_lookup (stands : dict.StandsFor table) (key : Text) :
    (dict.lookup key).isSome = table.contains key := by
  rw [Table.contains_eq_isSome_find?, ← stands.same, Option.isSome_map]

theorem keys_ofList_perm {members : List Text} (distinct : members.Nodup) :
    members.Perm (KeySet.ofList members).keys := by
  apply (List.perm_ext_iff_of_nodup distinct (Table.keys_nodup _)).mpr
  intro member
  rw [Table.mem_keys_iff, KeySet.contains_ofList]

theorem size_ofList {members : List Text} (distinct : members.Nodup) :
    (KeySet.ofList members).size = members.length := by
  rw [Table.size_eq_length_keys, (keys_ofList_perm distinct).length_eq]

theorem ofList_insert (members : List Text) (member : Text) :
    KeySet.ofList (members.insert member) = (KeySet.ofList members).insert member := by
  apply KeySet.ext_contains
  intro other
  rw [KeySet.contains_insert, Bool.eq_iff_iff, Bool.or_eq_true, decide_eq_true_eq,
    KeySet.contains_ofList, KeySet.contains_ofList, List.mem_insert_iff]

theorem lookup_add (dict : Dict) (key member other : Text) :
    (dict.add key member).lookup other =
      if other = key then some (((dict.lookup key).getD []).insert member) else dict.lookup other := by
  induction dict with
  | nil =>
    rw [add, List.lookup_cons]
    by_cases here : other = key
    · simp [here]
    · simp [here, beq_eq_false_iff_ne.mpr here]
  | cons entry rest ih =>
    obtain ⟨first, members⟩ := entry
    unfold add
    by_cases known : key = first
    · subst known
      rw [if_pos rfl, List.lookup_cons, List.lookup_cons, List.lookup_cons]
      by_cases here : other = key
      · simp [here]
      · simp [here, beq_eq_false_iff_ne.mpr here]
    · rw [if_neg known, List.lookup_cons, List.lookup_cons, List.lookup_cons,
        beq_eq_false_iff_ne.mpr known, ih]
      by_cases here : other = key
      · subst here
        simp [beq_eq_false_iff_ne.mpr known]
      · cases other == first <;> simp [here]

theorem map_fst_add (dict : Dict) (key member : Text) :
    (dict.add key member).map Prod.fst =
      if key ∈ dict.map Prod.fst then dict.map Prod.fst else dict.map Prod.fst ++ [key] := by
  induction dict with
  | nil => rfl
  | cons entry rest ih =>
    obtain ⟨first, members⟩ := entry
    unfold add
    by_cases known : key = first
    · simp [known]
    · rw [if_neg known, List.map_cons, ih]
      by_cases later : key ∈ rest.map Prod.fst
      · rw [if_pos later, if_pos (by exact List.mem_cons_of_mem _ later)]
        rfl
      · have new : key ∉ ((first, members) :: rest).map Prod.fst :=
          fun there => (List.mem_cons.mp there).elim known later
        rw [if_neg later, if_neg new]
        rfl

theorem StandsFor.add (stands : dict.StandsFor table) (key member : Text) :
    (dict.add key member).StandsFor
      (table.put key (((table.find? key).getD .empty).insert member)) := by
  have once : ((dict.add key member).map Prod.fst).Nodup := by
    rw [map_fst_add]
    split
    · exact stands.once
    · next new => exact List.concat_eq_append ▸ List.Nodup.concat new stands.once
  refine ⟨once, ?_, ?_⟩
  · intro ⟨other, members⟩ listed
    rw [← lookup_eq_some_iff once, lookup_add] at listed
    split at listed
    · obtain rfl := Option.some.inj listed
      cases found : dict.lookup key with
      | none => simp
      | some before =>
        exact (stands.distinct _ ((lookup_eq_some_iff stands.once).mp found)).insert
    · exact stands.distinct _ ((lookup_eq_some_iff stands.once).mp listed)
  · intro other
    rw [lookup_add, Table.find?_put]
    split
    · rw [Option.map_some, ofList_insert, ← stands.same key]
      cases dict.lookup key <;> rfl
    · exact stands.same other

theorem StandsFor.concat (stands : dict.StandsFor table) (new : table.contains key = false) :
    StandsFor (dict ++ [(key, [])]) (table.put key .empty) := by
  have absent : dict.lookup key = none := by
    rw [← Option.not_isSome_iff_eq_none, stands.isSome_lookup, new]
    simp
  have elsewhere : key ∉ dict.map Prod.fst := by
    intro there
    obtain ⟨entry, member, rfl⟩ := List.mem_map.mp there
    rw [(lookup_eq_some_iff stands.once).mpr member] at absent
    exact absurd absent (by simp)
  refine ⟨?_, ?_, ?_⟩
  · rw [List.map_append]
    exact List.concat_eq_append ▸ List.Nodup.concat elsewhere stands.once
  · intro entry listed
    rcases List.mem_append.mp listed with before | last
    · exact stands.distinct entry before
    · rw [List.mem_singleton.mp last]
      exact .nil
  · intro other
    rw [List.lookup_append, Table.find?_put, List.lookup_cons]
    by_cases here : other = key
    · subst here
      simp [absent]
      rfl
    · rw [if_neg here, beq_eq_false_iff_ne.mpr here, ← stands.same other]
      simp

end Dict
end ClusterTopology
