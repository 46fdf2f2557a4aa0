import ClusterTopology.Json.Basic
import ClusterTopology.Sorting.Runs

/-!
Equality and order of documents. Numbers compare by value whatever their kind, and a truth value is
the number zero or one. A number that is no number equals itself where a document looks something
up, but it equals nothing where two values are compared directly, and it is neither below nor above
any other. Values of different kinds have no order, so listing them in order can fail.
-/

namespace ClusterTopology.Json

/-- What a number is worth, in units that make all finite numbers integers. -/
inductive Worth where
  | units (count : Int)
  | infinite (negative : Bool)
  | undefined
  deriving DecidableEq

def worth? : Json → Option Worth
  | .bool value => some (.units (Binary64.unitsOfInt (if value then 1 else 0)))
  | .int value => some (.units (Binary64.unitsOfInt value))
  | .float .nan => some .undefined
  | .float (.infinity negative) => some (.infinite negative)
  | .float (.finite negative significand exponent) =>
    (Binary64.finite negative significand exponent).units?.map .units
  | _ => none

def Worth.below : Worth → Worth → Bool
  | .undefined, _ => false
  | _, .undefined => false
  | .infinite negative, .infinite other => negative && !other
  | .infinite negative, .units _ => negative
  | .units _, .infinite negative => !negative
  | .units count, .units other => count < other

mutual
def same : Json → Json → Bool
  | .null, .null => true
  | .text value, .text other => value = other
  | .list items, .list others => sameItems items others
  | .object members, .object others =>
    members.length = others.length && sameMembers members others
  | value, other =>
    match worth? value, worth? other with
    | some worth, some otherWorth => worth = otherWorth
    | _, _ => false

def sameItems : List Json → List Json → Bool
  | [], [] => true
  | item :: items, other :: others => same item other && sameItems items others
  | _, _ => false

def sameMembers : List (Text × Json) → List (Text × Json) → Bool
  | [], _ => true
  | (name, value) :: members, others =>
    (match others.lookup name with
      | some other => same value other
      | none => false)
      && sameMembers members others
end

def equal (value other : Json) : Bool :=
  same value other && worth? value ≠ some .undefined

def below? : Json → Json → Option Bool
  | .text value, .text other => some (value < other)
  | value, other => do
    let worth ← worth? value
    let otherWorth ← worth? other
    return worth.below otherWorth

def ascending? : List Json → Option (List Json) := Sorting.ascending? below?

end ClusterTopology.Json
