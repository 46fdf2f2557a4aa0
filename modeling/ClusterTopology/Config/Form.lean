import ClusterTopology.Status.Selection
import ClusterTopology.Topology.Document

/-!
Node lists and selectors as they are configured. Every node has a name of its own, and names, label
keys and label values of any kind count by the form in which they show. The first item that does not
have its form decides the fault.
-/

namespace ClusterTopology

namespace Node

def labelsOfDocument (name : Text) (document : Json) : Except Fault Labels :=
  if document.isBlank then .ok .empty
  else match document with
    | .object members => .ok (Table.ofList (members.map fun (key, value) => (key, value.shown)))
    | _ => .error (.form (.nodeLabelsNotNamed name document))

def listFrom (seen : List Text) : List Json → Except Fault (List Node)
  | [] => .ok []
  | item :: items =>
    match item with
    | .object members =>
      if (Json.member "name" members).isBlank then .error (.form (.nodeWithoutName item))
      else do
        let name := (Json.member "name" members).shown
        if seen.contains name then .error (.form (.nodeNameRepeated name))
        else
          let labels ← labelsOfDocument name (Json.member "labels" members)
          return ⟨name, labels⟩ :: (← listFrom (name :: seen) items)
    | _ => .error (.form (.nodeWithoutName item))

def listOfDocument : Json → Except Fault (List Node)
  | .list items => listFrom [] items
  | document => .error (.form (.nodesNotListed document))

end Node

namespace Selector

def labelsOfDocument (document : Json) : Except Fault (List (Text × Text)) :=
  if document.isBlank then .ok []
  else match document with
    | .object members => .ok (members.map fun (key, value) => (key, value.shown))
    | _ => .error (.form (.selectorLabelsNotNamed document))

/-- A key or operator that is missing is the empty text. -/
def requirementOfDocument : Json → Except Fault Requirement
  | .object members => do
    let values ← (Json.member "values" members).elementsOrNone
    return {
      key := (Json.memberOr (.text []) "key" members).shown
      operator := .ofJson (Json.memberOr (.text []) "operator" members)
      values := values.map Json.shown }
  | document => .error (.form (.requirementNotNamed document))

/-- The selector of a configured document, if there is one. Whether its keys, values and operators
are valid is not looked at yet. -/
def ofDocument : Json → Except Fault (Option Selector)
  | .null => .ok none
  | .object members => do
    let labels ← labelsOfDocument (Json.member "matchLabels" members)
    let expressions ← (Json.member "matchExpressions" members).elementsOrNone
    return some ⟨labels, ← expressions.mapM requirementOfDocument⟩
  | document => .error (.form (.selectorNotNamed document))

end Selector

namespace Node

/-- The nodes that a selector selects, by name; nodes of the same name keep their order. -/
def eligible (nodes : List Node) (selector : Option Selector) : Except Fault (List Node) := do
  let selector := selector.getD .standard
  (selector.check).mapError .selector
  return sortByName (nodes.filter fun node => selector.selects node.labels)

end Node
end ClusterTopology
