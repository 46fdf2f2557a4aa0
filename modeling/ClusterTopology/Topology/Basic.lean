import ClusterTopology.Outcome

/-!
The record of topology labels: for each label key the values found under it, and for each value the
nodes recorded with it. No key stands without a value, so a topology is empty exactly when nothing
was ever recorded or all of it was removed.
-/

namespace ClusterTopology

structure Topology (α : Type) [Name α] where
  table : Table Text (Table α (KeySet α))
  valued : ∀ entry ∈ table.entries, entry.2.isEmpty = false

namespace Topology

variable {α : Type} [Name α]

@[ext]
theorem ext {t u : Topology α} (h : t.table = u.table) : t = u := by
  cases t
  cases u
  simp_all

def empty : Topology α := ⟨Table.empty, by simp [Table.empty]⟩

def isEmpty (t : Topology α) : Bool := t.table.isEmpty

def size (t : Topology α) : Nat := t.table.size

def keys (t : Topology α) : List Text := t.table.keys

def hasKey (t : Topology α) (key : Text) : Bool := t.table.contains key

def valuesOf (t : Topology α) (key : Text) : Table α (KeySet α) := (t.table.find? key).getD .empty

def hasValue (t : Topology α) (key : Text) (value : α) : Bool := (t.valuesOf key).contains value

def nodesOf (t : Topology α) (key : Text) (value : α) : KeySet α :=
  ((t.valuesOf key).find? value).getD .empty

def records (t : Topology α) (key : Text) (value node : α) : Bool :=
  (t.nodesOf key value).contains node

def values (t : Topology α) (key : Text) : Except Fault (List α) :=
  match Name.listing? (t.valuesOf key).keys with
  | some values => .ok values
  | none => .error (.kind .noOrder)

theorem isEmpty_put {κ ν : Type} [Key κ] (t : Table κ ν) (key : κ) (value : ν) :
    (t.put key value).isEmpty = false := by
  simp only [Table.put, Table.isEmpty]
  cases t.entries with
  | nil => rfl
  | cons entry rest =>
    simp only [Table.putEntry]
    split
    · rfl
    · split <;> rfl

theorem mem_putEntry {κ ν : Type} [Key κ] (key : κ) (value : ν) (entries : List (κ × ν))
    (other : κ × ν) (mem : other ∈ Table.putEntry key value entries) :
    other.2 = value ∨ other ∈ entries := by
  induction entries with
  | nil => simp_all [Table.putEntry]
  | cons entry rest ih =>
    simp only [Table.putEntry] at mem
    split at mem
    · rcases List.mem_cons.mp mem with rfl | mem
      · exact Or.inl rfl
      · exact Or.inr (List.mem_cons_of_mem _ mem)
    · split at mem
      · rcases List.mem_cons.mp mem with rfl | mem
        · exact Or.inr List.mem_cons_self
        · rcases ih mem with h | h
          · exact Or.inl h
          · exact Or.inr (List.mem_cons_of_mem _ h)
      · rcases List.mem_cons.mp mem with rfl | mem
        · exact Or.inl rfl
        · exact Or.inr mem

/-- Replaces the values under a key, of which there has to be one. -/
def putValues (t : Topology α) (key : Text) (values : Table α (KeySet α))
    (some : values.isEmpty = false) : Topology α :=
  ⟨t.table.put key values, fun entry mem => by
    rcases mem_putEntry key values t.table.entries entry mem with h | h
    · rw [h]; exact some
    · exact t.valued entry h⟩

/-- Records a value under a key, and leaves the nodes of a value that is there already. -/
def addValue (t : Topology α) (key : Text) (value : α) : Topology α :=
  t.putValues key ((t.valuesOf key).put value (t.nodesOf key value)) (isEmpty_put _ _ _)

def addNode (t : Topology α) (key : Text) (value node : α) : Topology α :=
  t.putValues key ((t.valuesOf key).put value ((t.nodesOf key value).insert node))
    (isEmpty_put _ _ _)

def removeKey (t : Topology α) (key : Text) : Topology α :=
  ⟨t.table.erase key, fun entry mem => t.valued entry (List.mem_filter.mp mem).1⟩

def alike (t u : Topology α) : Bool :=
  t.table.alike (fun values others => values.alike KeySet.alike others) u.table

/-- The first key that contains a text, with its values, or nothing without such a key. Only a text
can be looked for. -/
def firstKeyWith (t : Topology α) (part : α) : Except Fault (Text × List α) :=
  match t.keys, Name.toJson part with
  | [], _ => .ok ([], [])
  | keys, .text part =>
    match keys.find? fun key => part.occursIn key with
    | some key => (t.values key).map fun values => (key, values)
    | none => .ok ([], [])
  | _, _ => .error (.kind .notAText)

def listing (t : Topology α) : Except Fault (List (Text × List (α × List α))) :=
  t.keys.mapM fun key => do
    let values ← t.values key
    let recorded ← values.mapM fun value =>
      match Name.listing? (t.nodesOf key value).keys with
      | some nodes => .ok (value, nodes)
      | none => .error (.kind .noOrder)
    return (key, recorded)

def addListed (t : Topology α) (key : Text) (value : α) (nodes : List α) : Topology α :=
  nodes.foldl (fun t node => t.addNode key value node) (t.addValue key value)

def ofListing (listing : List (Text × List (α × List α))) : Topology α :=
  listing.foldl
    (fun t (key, values) => values.foldl (fun t (value, nodes) => t.addListed key value nodes) t)
    empty

end Topology
end ClusterTopology
