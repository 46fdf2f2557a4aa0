import ClusterTopology.Json.Order
import ClusterTopology.Table.Lookup

/-!
What may stand as a name of a node or as a label value. A well-kept status holds texts only, and
then everything about names is decided by their order as texts. A status file written by hand may
hold any scalar in their place; such a status is worked on all the same, except that names of
different kinds cannot be listed in order.
-/

namespace ClusterTopology

theorem Text.lt_of_not_lt {a b : Text} (different : a ≠ b) (notLess : ¬ a < b) : b < a := by
  rcases Std.lt_trichotomy a b with h | h | h
  · exact absurd h notLess
  · exact absurd h different
  · exact h

instance : Key Text where
  same a b := a = b
  before a b := a < b
  before_trans {a b c} ab bc := by
    simp only [decide_eq_true_eq] at *
    exact List.lt_trans ab bc
  before_of_not_before {a b} different notBefore := by
    simp only [decide_eq_true_eq, decide_eq_false_iff_not] at *
    exact Text.lt_of_not_lt different notBefore

instance : LawfulKey Text where
  same_iff := decide_eq_true_iff
  before_irrefl := decide_eq_false (List.lt_irrefl _)

/-- Documents keep the order in which they arrive. -/
instance : Key Json where
  same := Json.same
  before _ _ := true
  before_trans _ _ := rfl
  before_of_not_before _ _ := rfl

class Name (α : Type) extends Key α where
  ofText : Text → α
  ofJson? : Json → Option α
  toJson : α → Json
  /-- The keys of a table in ascending order; without answer when they have none. -/
  listing? : List α → Option (List α)

instance : Name Text where
  ofText := id
  ofJson? document := match document with
    | .text value => some value
    | _ => none
  toJson := .text
  listing? := some

instance : Name Json where
  ofText := .text
  ofJson? := some
  toJson := id
  listing? := Json.ascending?

end ClusterTopology
