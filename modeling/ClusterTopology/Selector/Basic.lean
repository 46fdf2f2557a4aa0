import ClusterTopology.Json.Display
import ClusterTopology.Node

/-!
Label selectors. A node is selected when its labels hold every listed key with the listed value and
satisfy every requirement; a selector that lists nothing selects every node.
-/

namespace ClusterTopology

inductive Operator where
  /-- The key is there with one of the values. -/
  | oneOf
  /-- The key is missing or has none of the values. -/
  | noneOf
  /-- The key is there with whatever value. -/
  | present
  /-- The key is missing. -/
  | missing
  /-- Anything else that was written in the place of an operator. -/
  | unknown (given : Json)

namespace Operator

def ofJson (document : Json) : Operator :=
  match document with
  | .text word =>
    if word = "In" then .oneOf
    else if word = "NotIn" then .noneOf
    else if word = "Exists" then .present
    else if word = "DoesNotExist" then .missing
    else .unknown document
  | _ => .unknown document

def toJson : Operator → Json
  | .oneOf => .text "In"
  | .noneOf => .text "NotIn"
  | .present => .text "Exists"
  | .missing => .text "DoesNotExist"
  | .unknown given => given

end Operator

structure Requirement where
  key : Text
  operator : Operator
  values : List Text

structure Selector where
  labels : List (Text × Text)
  requirements : List Requirement

/-- The requirement holds of these labels. An unknown operator is taken for `missing`; a valid
selector has none. -/
def Requirement.holds (requirement : Requirement) (labels : Labels) : Bool :=
  match requirement.operator, labels.find? requirement.key with
  | .oneOf, some value => requirement.values.contains value
  | .oneOf, none => false
  | .noneOf, some value => !requirement.values.contains value
  | .noneOf, none => true
  | .present, value => value.isSome
  | _, value => value.isNone

namespace Selector

def standard : Selector := ⟨[(storageKey, [])], []⟩

def selects (selector : Selector) (labels : Labels) : Bool :=
  (selector.labels.all fun (key, value) => labels.find? key = some value)
    && selector.requirements.all fun requirement => requirement.holds labels

end Selector
end ClusterTopology
