import ClusterTopology.Json.Display
import ClusterTopology.Proofs.Json.Number

/-!
What shows of a document. Only the empty text shows as nothing, so whatever counts as present can be
seen in a message, and a name taken from it is never empty.
-/

namespace ClusterTopology

namespace Binary64

theorem writeMagnitude_ne_nil (layout : Layout) (significand : Nat) (exponent : Int) :
    layout.writeMagnitude significand exponent ≠ [] := by
  have point : ((".") : Text) ≠ [] := by decide
  have start : (("0.") : Text) ≠ [] := by decide
  have ending : ((".0") : Text) ≠ [] := by decide
  have mark : (("e") : Text) ≠ [] := by decide
  have positional : ∀ digits position, writePositional digits position ≠ [] := by
    intro digits position
    unfold writePositional
    split
    · simp [start]
    split
    · simp [point]
    · simp [ending]
  have scientific : ∀ digits position, writeScientific digits position ≠ [] := by
    intro digits position
    simp [writeScientific, mark]
  unfold Layout.writeMagnitude
  split
  · decide
  dsimp only
  split
  · exact positional _ _
  · exact scientific _ _

theorem write_ne_nil {layout : Layout} (nan : layout.nan ≠ []) (infinity : layout.infinity ≠ [])
    (number : Binary64) : layout.write number ≠ [] := by
  cases number with
  | nan => exact nan
  | infinity negative => exact List.append_ne_nil_of_right_ne_nil _ infinity
  | finite negative significand exponent =>
    exact List.append_ne_nil_of_right_ne_nil _ (writeMagnitude_ne_nil layout significand exponent)

end Binary64

namespace Json

theorem shown_ne_nil {document : Json} (present : document.isBlank = false) :
    document.shown ≠ [] := by
  cases document with
  | null => exact absurd present (by simp [isBlank])
  | bool value => cases value <;> decide
  | int value =>
    cases value with
    | ofNat n => exact Text.ofNat_ne_nil n
    | negSucc n => exact List.cons_ne_nil _ _
  | float value => exact Binary64.write_ne_nil (by decide) (by decide) value
  | text value =>
    intro nothing
    rw [show value = [] from nothing] at present
    exact absurd present (by simp [isBlank])
  | list items => exact List.cons_ne_nil _ _
  | object members => exact List.cons_ne_nil _ _

end Json
end ClusterTopology
