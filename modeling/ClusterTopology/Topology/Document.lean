import ClusterTopology.Json.Writer
import ClusterTopology.Topology.Basic

/-!
Topologies as documents. Written is an object of label keys, under each an object of values, and
under each value the list of its nodes, all in ascending order. Read is also a bare list of values
under a key, without any nodes, and whatever counts as absent stands for nothing recorded.
-/

namespace ClusterTopology

def Name.ofDocument {α : Type} [Name α] (document : Json) : Except Fault α :=
  if document.isScalar then
    match Name.ofJson? document with
    | some name => .ok name
    | none => .error (.kind .notAName)
  else .error (.kind .notAName)

def Json.elements (document : Json) : Except Fault (List Json) :=
  match document.elements? with
  | some items => .ok items
  | none => .error (.kind .noItems)

def Json.elementsOrNone (document : Json) : Except Fault (List Json) :=
  if document.isBlank then .ok [] else document.elements

namespace Topology

variable {α : Type} [Name α]

def addValues (key : Text) : Topology α → List Json → Except Fault (Topology α)
  | t, [] => .ok t
  | t, value :: values => do
    addValues key (t.addValue key (← Name.ofDocument value)) values

/-- A null among the nodes is passed over. -/
def addNodes (key : Text) (value : α) : Topology α → List Json → Except Fault (Topology α)
  | t, [] => .ok t
  | t, .null :: nodes => addNodes key value t nodes
  | t, node :: nodes => do
    addNodes key value (t.addNode key value (← Name.ofDocument node)) nodes

def addRecorded (key : Text) : Topology α → Json.Members → Except Fault (Topology α)
  | t, [] => .ok t
  | t, (name, nodes) :: rest => do
    let value := Name.ofText name
    let filled ← addNodes key value (t.addValue key value) (← nodes.elementsOrNone)
    addRecorded key filled rest

def addMembers : Topology α → Json.Members → Except Fault (Topology α)
  | t, [] => .ok t
  | t, (key, .list values) :: rest => do addMembers (← addValues key t values) rest
  | t, (key, .object recorded) :: rest => do addMembers (← addRecorded key t recorded) rest
  | _, _ :: _ => .error .noMembers

def ofDocument (document : Json) : Except Fault (Topology α) :=
  if document.isBlank then .ok empty
  else match document with
    | .object members => addMembers empty members
    | _ => .error .noMembers

def documentOf (listing : List (Text × List (α × List α))) : Json :=
  .object (listing.map fun (key, values) =>
    (key, .object (values.map fun (value, nodes) =>
      ((Name.toJson value).memberName, .list (nodes.map Name.toJson)))))

def toDocument (t : Topology α) : Except Fault Json := t.listing.map documentOf

def relisted (t : Topology α) : Except Fault (Topology α) := t.listing.map ofListing

def shownValue (recorded : α × List α) : Text :=
  (Name.toJson recorded.1).quoted ++ ": " ++ (Json.list (recorded.2.map Name.toJson)).quoted

def shownKey (entry : Text × List (α × List α)) : Text :=
  entry.1.quoted ++ ": \x7b" ++ Text.joined ", " (entry.2.map shownValue) ++ "\x7d"

def shown (t : Topology α) : Except Fault Text :=
  t.listing.map fun listing =>
    "TopologyMap(\x7b" ++ Text.joined ", " (listing.map shownKey) ++ "\x7d)"

end Topology
end ClusterTopology
