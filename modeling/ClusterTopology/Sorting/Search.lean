/-!
Searching a list whose values pass a test up to some place and fail it from there on. The test may
be without answer, and then so is the search. When values that pass and values that fail are mixed,
the place that is found depends on the places that are looked at, so these are laid down too.
-/

namespace ClusterTopology.Sorting

variable {α : Type}

/-- The places from `low` to `high`, one of which is that of the first value that fails. -/
structure Range where
  low : Nat
  high : Nat

def Range.middle (early : Bool) (range : Range) : Nat :=
  if early then range.low + (range.high - range.low - 1) / 2
  else range.low + (range.high - range.low) / 2

def halve (early : Bool) (passes : α → Option Bool) (values : List α) :
    (steps : Nat) → Range → Option Nat
  | 0, range => some range.low
  | steps + 1, range =>
    if range.low < range.high then
      match values[range.middle early]? with
      | none => some range.low
      | some value => do
        if ← passes value then
          halve early passes values steps { range with low := range.middle early + 1 }
        else halve early passes values steps { range with high := range.middle early }
    else some range.low

/-- The range between the last place that was found to pass and the first one found to fail, when
the places that are looked at lie twice as far ahead each time. -/
def stride (passes : α → Option Bool) (values : List α) :
    (steps low next : Nat) → Option Range
  | 0, low, next => some ⟨low, next⟩
  | steps + 1, low, next =>
    match values[next]? with
    | none => some ⟨low, values.length⟩
    | some value => do
      if ← passes value then stride passes values steps (next + 1) (2 * next + 1)
      else return ⟨low, next⟩

def countByHalving (passes : α → Option Bool) (values : List α) : Option Nat :=
  halve false passes values values.length ⟨0, values.length⟩

def countByStrides (early : Bool) (passes : α → Option Bool) (values : List α) : Option Nat := do
  halve early passes values values.length (← stride passes values (values.length + 1) 0 0)

end ClusterTopology.Sorting
