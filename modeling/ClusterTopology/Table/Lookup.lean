import ClusterTopology.Table

/-!
What a table holds, seen through look-ups. Putting and erasing a key change the answer for that key
alone, and two tables with the same answers are the same table, because the order of the entries is
determined by their keys.
-/

namespace ClusterTopology

class LawfulKey (κ : Type) [Key κ] : Prop where
  same_iff : ∀ {a b : κ}, Key.same a b = true ↔ a = b
  before_irrefl : ∀ {a : κ}, Key.before a a = false

namespace Table

variable {κ ν : Type} [Key κ] [LawfulKey κ]

theorem same_self (key : κ) : Key.same key key = true := LawfulKey.same_iff.mpr rfl

theorem same_of_ne {a b : κ} (different : a ≠ b) : Key.same a b = false := by
  cases same : Key.same a b with
  | false => rfl
  | true => exact absurd (LawfulKey.same_iff.mp same) different

theorem ne_of_before {a b : κ} (before : Key.before a b = true) : a ≠ b := by
  rintro rfl
  simp [LawfulKey.before_irrefl] at before

variable [DecidableEq κ]

theorem find?_cons (entry : κ × ν) (rest : List (κ × ν)) (ordered) (key : κ) :
    Table.find? ⟨entry :: rest, ordered⟩ key =
      if entry.1 = key then some entry.2
      else Table.find? ⟨rest, (List.pairwise_cons.mp ordered).2⟩ key := by
  by_cases same : entry.1 = key
  · simp [Table.find?, same, same_self]
  · simp [Table.find?, same, same_of_ne same]

theorem findEntry_putEntry (key other : κ) (value : ν) (entries : List (κ × ν)) :
    ((putEntry key value entries).find? fun entry => Key.same entry.1 other).map (·.2) =
      if other = key then some value
      else (entries.find? fun entry => Key.same entry.1 other).map (·.2) := by
  induction entries with
  | nil =>
    by_cases same : other = key
    · simp [putEntry, same, same_self]
    · simp [putEntry, same, same_of_ne (Ne.symm same)]
  | cons entry rest ih =>
    simp only [putEntry]
    split
    · next same =>
      have same := LawfulKey.same_iff.mp same
      by_cases here : other = key
      · simp [same, here, same_self]
      · simp [same, here, same_of_ne (Ne.symm here)]
    · next different =>
      split
      · by_cases here : other = key
        · subst here
          simp only [List.find?_cons]
          simp only [Bool.not_eq_true] at different
          simp [different, ih]
        · simp only [List.find?_cons]
          cases Key.same entry.1 other <;> simp [ih, here]
      · by_cases here : other = key
        · simp [here, same_self]
        · rw [List.find?_cons, same_of_ne (Ne.symm here)]
          simp [here]

theorem find?_put (t : Table κ ν) (key other : κ) (value : ν) :
    (t.put key value).find? other = if other = key then some value else t.find? other :=
  findEntry_putEntry key other value t.entries

theorem find?_put_self (t : Table κ ν) (key : κ) (value : ν) :
    (t.put key value).find? key = some value := by
  simp [find?_put]

theorem find?_put_of_ne (t : Table κ ν) {key other : κ} (value : ν) (different : other ≠ key) :
    (t.put key value).find? other = t.find? other := by
  simp [find?_put, different]

theorem find?_erase (t : Table κ ν) (key other : κ) :
    (t.erase key).find? other = if other = key then none else t.find? other := by
  simp only [Table.find?, erase, List.find?_filter]
  by_cases here : other = key
  · subst here
    simp
  · have same : ∀ entry : κ × ν,
        (!Key.same entry.1 key && Key.same entry.1 other) = Key.same entry.1 other := by
      intro entry
      cases found : Key.same entry.1 other with
      | false => simp
      | true =>
        have found := LawfulKey.same_iff.mp found
        simp [found, same_of_ne here]
    simp [same, here]

theorem find?_eq_some_iff (t : Table κ ν) (key : κ) (value : ν) :
    t.find? key = some value ↔ (key, value) ∈ t.entries := by
  obtain ⟨entries, ordered⟩ := t
  induction entries with
  | nil => simp [Table.find?]
  | cons entry rest ih =>
    have ⟨first, tail⟩ := List.pairwise_cons.mp ordered
    rw [find?_cons]
    by_cases here : entry.1 = key
    · subst here
      simp only [↓reduceIte, Option.some.injEq, List.mem_cons]
      constructor
      · rintro rfl
        exact Or.inl rfl
      · rintro (same | member)
        · exact congrArg Prod.snd same.symm
        · exact absurd rfl (ne_of_before (first (entry.1, value) member))
    · simp only [here, ↓reduceIte, List.mem_cons]
      rw [ih tail]
      constructor
      · exact Or.inr
      · rintro (same | member)
        · exact absurd (congrArg Prod.fst same.symm) here
        · exact member

theorem ext_find? {t u : Table κ ν} (same : ∀ key, t.find? key = u.find? key) : t = u := by
  have member : ∀ entry : κ × ν, entry ∈ t.entries ↔ entry ∈ u.entries := by
    rintro ⟨key, value⟩
    rw [← find?_eq_some_iff, ← find?_eq_some_iff, same]
  apply Table.ext
  apply List.Perm.eq_of_pairwise _ t.ordered u.ordered
  · exact (List.perm_ext_iff_of_nodup
      (t.ordered.imp fun before same => ne_of_before before (congrArg Prod.fst same))
      (u.ordered.imp fun before same => ne_of_before before (congrArg Prod.fst same))).mpr member
  · intro entry later _ _ before after
    exact absurd rfl (ne_of_before (Key.before_trans before after))

end Table
end ClusterTopology
