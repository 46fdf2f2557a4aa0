import ClusterTopology.Table.Lookup

/-!
Tables and sets of keys by their contents: which keys stand in them after a change, and when they
are empty.
-/

namespace ClusterTopology

namespace Table

variable {κ ν : Type} [Key κ]

@[simp] theorem find?_empty (key : κ) : (empty : Table κ ν).find? key = none := rfl

@[simp] theorem contains_empty (key : κ) : (empty : Table κ ν).contains key = false := rfl

theorem contains_eq_isSome_find? (t : Table κ ν) (key : κ) :
    t.contains key = (t.find? key).isSome := by
  unfold contains find?
  rw [Option.isSome_map]
  induction t.entries with
  | nil => rfl
  | cons entry rest ih =>
    rw [List.any_cons, List.find?_cons, ih]
    cases Key.same entry.1 key <;> rfl

theorem contains_iff {t : Table κ ν} {key : κ} :
    t.contains key = true ↔ ∃ value, t.find? key = some value := by
  rw [contains_eq_isSome_find?, Option.isSome_iff_exists]

theorem size_eq_length_keys (t : Table κ ν) : t.size = t.keys.length :=
  (List.length_map _).symm

theorem size_eq_zero_iff {t : Table κ ν} : t.size = 0 ↔ t.isEmpty = true := by
  unfold size isEmpty
  rw [List.length_eq_zero_iff, List.isEmpty_iff]

theorem keys_ordered (t : Table κ ν) : t.keys.Pairwise fun key later => Key.before key later :=
  List.pairwise_map.mpr t.ordered

variable [LawfulKey κ]

theorem isEmpty_iff {t : Table κ ν} : t.isEmpty = true ↔ ∀ key, t.contains key = false := by
  constructor
  · intro nothing key
    have none : t.entries = [] := List.isEmpty_iff.mp nothing
    simp [contains, none]
  · intro nothing
    cases entries : t.entries with
    | nil => simp [isEmpty, entries]
    | cons entry rest =>
      have first : t.contains entry.1 = true := by simp [contains, entries, same_self]
      rw [nothing entry.1] at first
      exact absurd first (by simp)

theorem keys_nodup (t : Table κ ν) : t.keys.Nodup :=
  t.keys_ordered.imp fun before => ne_of_before before

theorem keys_eq_of_mem_iff {μ : Type} {t : Table κ ν} {u : Table κ μ}
    (same : ∀ key, key ∈ t.keys ↔ key ∈ u.keys) : t.keys = u.keys := by
  have reordered : t.keys.Perm u.keys :=
    (List.perm_ext_iff_of_nodup t.keys_nodup u.keys_nodup).mpr same
  apply reordered.eq_of_pairwise _ t.keys_ordered u.keys_ordered
  intro key other _ _ front after
  exact absurd rfl (ne_of_before (Key.before_trans front after))

theorem find?_keys_eq_some_iff {t : Table κ ν} {chosen : κ → Bool} {key : κ} :
    t.keys.find? chosen = some key ↔
      key ∈ t.keys ∧ chosen key = true
        ∧ ∀ other ∈ t.keys, chosen other = true → Key.before other key = false := by
  have ordered := t.keys_ordered
  generalize t.keys = keys at ordered
  induction keys with
  | nil => simp
  | cons first keys ih =>
    have ⟨front, rest⟩ := List.pairwise_cons.mp ordered
    rw [List.find?_cons]
    cases taken : chosen first with
    | true =>
      simp only [Option.some.injEq, List.mem_cons, forall_eq_or_imp, taken, forall_const]
      constructor
      · rintro rfl
        refine ⟨Or.inl rfl, taken, LawfulKey.before_irrefl, fun other member _ => ?_⟩
        cases after : Key.before other first with
        | false => rfl
        | true => exact absurd rfl (ne_of_before (Key.before_trans (front other member) after))
      · rintro ⟨rfl | member, _, notAfter, _⟩
        · rfl
        · rw [front key member] at notAfter
          exact absurd notAfter (by simp)
    | false =>
      refine (ih rest).trans ?_
      simp only [List.mem_cons, forall_eq_or_imp, taken, Bool.false_eq_true, false_implies,
        true_and]
      constructor
      · rintro ⟨member, property, least⟩
        exact ⟨Or.inr member, property, least⟩
      · rintro ⟨rfl | member, property, least⟩
        · rw [taken] at property
          exact absurd property (by simp)
        · exact ⟨member, property, least⟩

variable [DecidableEq κ]

theorem contains_put (t : Table κ ν) (key other : κ) (value : ν) :
    (t.put key value).contains other = (decide (other = key) || t.contains other) := by
  rw [contains_eq_isSome_find?, contains_eq_isSome_find?, find?_put]
  by_cases same : other = key <;> simp [same]

theorem put_put (t : Table κ ν) (key : κ) (value other : ν) :
    (t.put key value).put key other = t.put key other := by
  apply ext_find?
  intro found
  simp only [find?_put]
  split <;> rfl

theorem put_comm (t : Table κ ν) {key other : κ} (different : key ≠ other) (value otherValue : ν) :
    (t.put key value).put other otherValue = (t.put other otherValue).put key value := by
  apply ext_find?
  intro found
  simp only [find?_put]
  by_cases here : found = key
  · simp [here, different]
  · simp [here]

theorem mem_keys_iff {t : Table κ ν} {key : κ} : key ∈ t.keys ↔ t.contains key = true := by
  rw [contains_iff]
  simp only [keys, List.mem_map, find?_eq_some_iff]
  constructor
  · rintro ⟨⟨found, value⟩, member, rfl⟩
    exact ⟨value, member⟩
  · rintro ⟨value, member⟩
    exact ⟨(key, value), member, rfl⟩

theorem size_put_of_contains {t : Table κ ν} {key : κ} (there : t.contains key = true) (value : ν) :
    (t.put key value).size = t.size := by
  have same : (t.put key value).keys = t.keys := by
    apply keys_eq_of_mem_iff
    intro other
    rw [mem_keys_iff, mem_keys_iff, contains_put, Bool.or_eq_true, decide_eq_true_eq]
    exact or_iff_right_of_imp fun same => same ▸ there
  rw [size_eq_length_keys, size_eq_length_keys, same]

theorem size_put_of_new {t : Table κ ν} {key : κ} (new : t.contains key = false) (value : ν) :
    (t.put key value).size = t.size + 1 := by
  have absent : key ∉ t.keys := by
    rw [mem_keys_iff, new]
    simp
  have more : (t.put key value).keys.Perm (key :: t.keys) := by
    apply (List.perm_ext_iff_of_nodup (keys_nodup _)
      (List.nodup_cons.mpr ⟨absent, t.keys_nodup⟩)).mpr
    intro other
    rw [mem_keys_iff, contains_put, Bool.or_eq_true, decide_eq_true_eq, List.mem_cons,
      mem_keys_iff]
  rw [size_eq_length_keys, size_eq_length_keys, more.length_eq, List.length_cons]

theorem find?_foldl_put_of_not_mem {ι : Type} (keyOf : ι → κ) (valueOf : ι → ν) (items : List ι)
    (t : Table κ ν) (key : κ) (absent : ∀ item ∈ items, keyOf item ≠ key) :
    (items.foldl (fun t item => t.put (keyOf item) (valueOf item)) t).find? key = t.find? key := by
  induction items generalizing t with
  | nil => rfl
  | cons item items ih =>
    rw [List.foldl_cons, ih _ fun other member => absent other (List.mem_cons_of_mem _ member)]
    exact find?_put_of_ne t _ (absent item List.mem_cons_self).symm

theorem find?_foldl_put_eq_some_iff {μ : Type} (valueOf : μ → ν) (entries : List (κ × μ))
    (t : Table κ ν) (key : κ) (value : ν) :
    (entries.foldl (fun t entry => t.put entry.1 (valueOf entry.2)) t).find? key = some value ↔
      (∃ front item back, entries = front ++ (key, item) :: back ∧ key ∉ back.map Prod.fst
          ∧ valueOf item = value)
        ∨ (key ∉ entries.map Prod.fst ∧ t.find? key = some value) := by
  induction entries generalizing t with
  | nil => simp
  | cons entry entries ih =>
    rw [List.foldl_cons, ih, find?_put]
    constructor
    · rintro (⟨front, item, back, rfl, last, same⟩ | ⟨absent, found⟩)
      · exact Or.inl ⟨entry :: front, item, back, rfl, last, same⟩
      · by_cases here : key = entry.1
        · rw [if_pos here] at found
          exact Or.inl ⟨[], entry.2, entries, by rw [here, List.nil_append], absent,
            Option.some.inj found⟩
        · rw [if_neg here] at found
          exact Or.inr ⟨by simpa [here] using absent, found⟩
    · rintro (⟨front, item, back, split, last, same⟩ | ⟨absent, found⟩)
      · cases front with
        | nil =>
          obtain ⟨rfl, rfl⟩ := List.cons.inj split
          exact Or.inr ⟨last, by rw [if_pos rfl, same]⟩
        | cons first front =>
          obtain ⟨rfl, rfl⟩ := List.cons.inj split
          exact Or.inl ⟨front, item, back, rfl, last, same⟩
      · have ⟨different, absent⟩ : key ≠ entry.1 ∧ key ∉ entries.map Prod.fst := by
          simpa using absent
        exact Or.inr ⟨absent, by rw [if_neg different, found]⟩

theorem find?_ofList_map_eq_some_iff {μ : Type} (valueOf : μ → ν) (entries : List (κ × μ)) (key : κ)
    (value : ν) :
    (ofList (entries.map fun entry => (entry.1, valueOf entry.2))).find? key = some value ↔
      ∃ front item back, entries = front ++ (key, item) :: back ∧ key ∉ back.map Prod.fst
        ∧ valueOf item = value := by
  rw [ofList, List.foldl_map]
  simpa using find?_foldl_put_eq_some_iff valueOf entries empty key value

theorem find?_ofList_eq_some_iff {entries : List (κ × ν)}
    (distinct : (entries.map Prod.fst).Nodup) {key : κ} {value : ν} :
    (ofList entries).find? key = some value ↔ (key, value) ∈ entries := by
  have last_found : (ofList entries).find? key = some value ↔
      ∃ front item back, entries = front ++ (key, item) :: back ∧ key ∉ back.map Prod.fst
        ∧ item = value := by
    simpa [ofList] using find?_foldl_put_eq_some_iff id entries empty key value
  rw [last_found]
  constructor
  · rintro ⟨front, item, back, rfl, _, rfl⟩
    simp
  · intro member
    obtain ⟨front, back, rfl⟩ := List.append_of_mem member
    rw [List.map_append, List.map_cons] at distinct
    have later := (List.nodup_cons.mp (List.nodup_append.mp distinct).2.1).1
    exact ⟨front, value, back, rfl, later, rfl⟩

theorem ofList_eq_of_perm {entries others : List (κ × ν)}
    (distinct : (entries.map Prod.fst).Nodup) (reordered : entries.Perm others) :
    ofList entries = ofList others := by
  have distinctOthers : (others.map Prod.fst).Nodup :=
    (reordered.map Prod.fst).nodup_iff.mp distinct
  apply ext_find?
  intro key
  apply Option.ext
  intro value
  rw [find?_ofList_eq_some_iff distinct, find?_ofList_eq_some_iff distinctOthers, reordered.mem_iff]

end Table

namespace KeySet

variable {κ : Type} [Key κ] [LawfulKey κ] [DecidableEq κ]

theorem contains_insert (set : KeySet κ) (key other : κ) :
    (set.insert key).contains other = (decide (other = key) || set.contains other) :=
  Table.contains_put set key other ()

theorem size_insert_bounds (set : KeySet κ) (key : κ) :
    set.size ≤ (set.insert key).size ∧ (set.insert key).size ≤ set.size + 1 := by
  unfold insert
  cases there : set.contains key with
  | true =>
    rw [Table.size_put_of_contains there]
    omega
  | false =>
    rw [Table.size_put_of_new there]
    omega

theorem ext_contains {set other : KeySet κ} (same : ∀ key, set.contains key = other.contains key) :
    set = other := by
  apply Table.ext_find?
  intro key
  have agree := same key
  rw [Table.contains_eq_isSome_find?, Table.contains_eq_isSome_find?] at agree
  cases found : set.find? key <;> cases foundOther : other.find? key <;> simp_all

theorem contains_ofList {members : List κ} {key : κ} :
    (ofList members).contains key = true ↔ key ∈ members := by
  have grown : ∀ set : KeySet κ, (members.foldl insert set).contains key = true ↔
      set.contains key = true ∨ key ∈ members := by
    induction members with
    | nil => simp
    | cons member members ih =>
      intro set
      rw [List.foldl_cons, ih, contains_insert, List.mem_cons]
      simp only [Bool.or_eq_true, decide_eq_true_eq]
      constructor
      · rintro ((here | there) | later)
        · exact Or.inr (Or.inl here)
        · exact Or.inl there
        · exact Or.inr (Or.inr later)
      · rintro (there | here | later)
        · exact Or.inl (Or.inr there)
        · exact Or.inl (Or.inl here)
        · exact Or.inr later
  simpa [ofList] using grown Table.empty

theorem ofList_eq_of_perm {members others : List κ} (reordered : members.Perm others) :
    ofList members = ofList others := by
  apply ext_contains
  intro key
  rw [Bool.eq_iff_iff, contains_ofList, contains_ofList, reordered.mem_iff]

end KeySet

/-! Items in the order of their keys. -/

section

variable {α κ : Type} [Key κ]

def Key.upTo (keyOf : α → κ) (item other : α) : Bool := !Key.before (keyOf other) (keyOf item)

variable [LawfulKey κ] (keyOf : α → κ) {items : List α}

theorem Key.upTo_total (item other : α) :
    (upTo keyOf item other || upTo keyOf other item) = true := by
  unfold upTo
  cases after : before (keyOf other) (keyOf item) with
  | false => rfl
  | true =>
    cases front : before (keyOf item) (keyOf other) with
    | false => rfl
    | true => exact absurd rfl (Table.ne_of_before (before_trans after front))

theorem Key.upTo_trans [DecidableEq κ] (first second third : α)
    (firstSecond : upTo keyOf first second = true) (secondThird : upTo keyOf second third = true) :
    upTo keyOf first third = true := by
  unfold upTo at *
  rw [Bool.not_eq_true'] at *
  by_cases same : keyOf first = keyOf second
  · rw [same]
    exact secondThird
  · have front : before (keyOf first) (keyOf second) = true :=
      before_of_not_before (Table.same_of_ne (Ne.symm same)) firstSecond
    cases behind : before (keyOf third) (keyOf first) with
    | false => rfl
    | true => rw [before_trans behind front] at secondThird; exact secondThird

theorem Key.ascending_mergeSort [DecidableEq κ] (distinct : (items.map keyOf).Nodup) :
    (items.mergeSort (upTo keyOf)).Pairwise fun item later =>
      before (keyOf item) (keyOf later) := by
  have sorted := List.pairwise_mergeSort (upTo_trans keyOf) (upTo_total keyOf) items
  have different : (items.mergeSort (upTo keyOf)).Pairwise fun item later =>
      keyOf item ≠ keyOf later :=
    List.pairwise_map.mp (((List.mergeSort_perm _ _).map keyOf).nodup_iff.mpr distinct)
  refine (sorted.and different).imp fun ⟨notAfter, notSame⟩ => ?_
  exact before_of_not_before (Table.same_of_ne notSame.symm) (by simpa [upTo] using notAfter)

/-- Whatever order items are given in, sorting leads to the one order in which their keys ascend. -/
theorem Key.mergeSort_eq_of_perm [DecidableEq κ] {ascending : List α}
    (ordered : ascending.Pairwise fun item later => before (keyOf item) (keyOf later))
    (reordered : items.Perm ascending) : items.mergeSort (upTo keyOf) = ascending := by
  have distinct : (ascending.map keyOf).Nodup :=
    List.pairwise_map.mpr (ordered.imp Table.ne_of_before)
  have sorted := ascending_mergeSort keyOf ((reordered.map keyOf).nodup_iff.mpr distinct)
  apply List.Perm.eq_of_pairwise _ sorted ordered ((List.mergeSort_perm _ _).trans reordered)
  intro item other _ _ front after
  exact absurd rfl (Table.ne_of_before (before_trans front after))

end
end ClusterTopology
