/-!
Finite tables. The entries stand in the order of their keys, so a table of texts has one form for
each content, whatever the order in which it was filled. A key type whose values have no order keeps
the entries as they arrived.
-/

namespace ClusterTopology

class Key (κ : Type) where
  same : κ → κ → Bool
  before : κ → κ → Bool
  before_trans : ∀ {a b c : κ}, before a b → before b c → before a c
  before_of_not_before : ∀ {a b : κ}, same a b = false → before a b = false → before b a

structure Table (κ ν : Type) [Key κ] where
  entries : List (κ × ν)
  ordered : entries.Pairwise fun entry later => Key.before entry.1 later.1

namespace Table

variable {κ ν : Type} [Key κ]

@[ext]
theorem ext {t u : Table κ ν} (h : t.entries = u.entries) : t = u := by
  cases t
  cases u
  simp_all

def empty : Table κ ν := ⟨[], List.Pairwise.nil⟩

instance : Inhabited (Table κ ν) := ⟨empty⟩

def isEmpty (t : Table κ ν) : Bool := t.entries.isEmpty

def size (t : Table κ ν) : Nat := t.entries.length

def keys (t : Table κ ν) : List κ := t.entries.map (·.1)

def find? (t : Table κ ν) (key : κ) : Option ν :=
  (t.entries.find? fun entry => Key.same entry.1 key).map (·.2)

def contains (t : Table κ ν) (key : κ) : Bool :=
  t.entries.any fun entry => Key.same entry.1 key

def putEntry (key : κ) (value : ν) : List (κ × ν) → List (κ × ν)
  | [] => [(key, value)]
  | entry :: rest =>
    if Key.same entry.1 key then (entry.1, value) :: rest
    else if Key.before entry.1 key then entry :: putEntry key value rest
    else (key, value) :: entry :: rest

theorem fst_mem_putEntry (key : κ) (value : ν) (entries : List (κ × ν)) (other : κ × ν)
    (mem : other ∈ putEntry key value entries) :
    other.1 = key ∨ ∃ entry ∈ entries, entry.1 = other.1 := by
  induction entries with
  | nil => simp_all [putEntry]
  | cons entry rest ih =>
    simp only [putEntry] at mem
    split at mem
    · rcases List.mem_cons.mp mem with rfl | mem
      · exact Or.inr ⟨entry, by simp, rfl⟩
      · exact Or.inr ⟨other, by simp [mem], rfl⟩
    · split at mem
      · rcases List.mem_cons.mp mem with rfl | mem
        · exact Or.inr ⟨other, by simp, rfl⟩
        · rcases ih mem with h | ⟨found, inRest, h⟩
          · exact Or.inl h
          · exact Or.inr ⟨found, by simp [inRest], h⟩
      · rcases List.mem_cons.mp mem with rfl | mem
        · exact Or.inl rfl
        · exact Or.inr ⟨other, mem, rfl⟩

theorem ordered_putEntry (key : κ) (value : ν) (entries : List (κ × ν))
    (ordered : entries.Pairwise fun entry later => Key.before entry.1 later.1) :
    (putEntry key value entries).Pairwise fun entry later => Key.before entry.1 later.1 := by
  induction entries with
  | nil => simp [putEntry]
  | cons entry rest ih =>
    have ⟨first, tail⟩ := List.pairwise_cons.mp ordered
    simp only [putEntry]
    split
    · exact List.pairwise_cons.mpr ⟨first, tail⟩
    · next different =>
      split
      · next earlier =>
        refine List.pairwise_cons.mpr ⟨fun other mem => ?_, ih tail⟩
        rcases fst_mem_putEntry key value rest other mem with h | ⟨found, inRest, h⟩
        · rw [h]; exact earlier
        · rw [← h]; exact first found inRest
      · next notEarlier =>
        have later : Key.before key entry.1 := Key.before_of_not_before
          (by simpa using different) (by simpa using notEarlier)
        refine List.pairwise_cons.mpr ⟨fun other mem => ?_, ordered⟩
        rcases List.mem_cons.mp mem with rfl | mem
        · exact later
        · exact Key.before_trans later (first other mem)

def put (t : Table κ ν) (key : κ) (value : ν) : Table κ ν :=
  ⟨putEntry key value t.entries, ordered_putEntry key value t.entries t.ordered⟩

def erase (t : Table κ ν) (key : κ) : Table κ ν :=
  ⟨t.entries.filter fun entry => !Key.same entry.1 key, t.ordered.filter _⟩

/-- Of repeated keys the last value counts. -/
def ofList (entries : List (κ × ν)) : Table κ ν :=
  entries.foldl (fun t entry => t.put entry.1 entry.2) empty

def alike (valuesAlike : ν → ν → Bool) (t u : Table κ ν) : Bool :=
  t.size = u.size
    && t.entries.all fun entry =>
      match u.find? entry.1 with
      | some other => valuesAlike entry.2 other
      | none => false

end Table

abbrev KeySet (κ : Type) [Key κ] : Type := Table κ Unit

namespace KeySet

variable {κ : Type} [Key κ]

def insert (set : KeySet κ) (key : κ) : KeySet κ := Table.put set key ()

def ofList (members : List κ) : KeySet κ := members.foldl insert Table.empty

def alike (set other : KeySet κ) : Bool := Table.alike (fun _ _ => true) set other

end KeySet
end ClusterTopology
