import ClusterTopology.Status.Basic
import ClusterTopology.Topology.Document

/-!
The status as a document, and the text that is stored. A member that counts as absent stands for
nothing chosen or counted. A status whose names are all texts is kept apart from one in which other
scalars, lists or objects stand in their place.
-/

namespace ClusterTopology

/-- A count: any number without its fraction, a truth value as zero or one, or a written integer. -/
def Json.count (document : Json) : Except Fault Int :=
  if document.isBlank then .ok 0
  else match document with
    | .bool _ => .ok 1
    | .int value => .ok value
    | .float .nan => .error .countUndefined
    | .float value =>
      match value.truncate? with
      | some whole => .ok whole
      | none => .error .countInfinite
    | .text given => (Text.readInt given).mapError .integer
    | _ => .error (.kind .notACount)

namespace Status

variable {α : Type} [Name α]

def nameOrEmpty (document : Json) : Except Fault α :=
  if document.isBlank then .ok (Name.ofText [])
  else match Name.ofJson? document with
    | some name => .ok name
    | none => .error (.kind .notAText)

def namesOrNone (document : Json) : Except Fault (List α) := do
  (← document.elementsOrNone).mapM fun item =>
    match Name.ofJson? item with
    | some name => .ok name
    | none => .error (.kind .notAText)

def topologyOrNone (document : Json) : Except Fault (Option (Topology α)) :=
  match document with
  | .null => .ok none
  | _ => (Topology.ofDocument document).map some

def ofMembers (members : Json.Members) : Except Fault (Status α) := do
  let topology ← topologyOrNone (Json.member "nodeTopologies" members)
  let type ← nameOrEmpty (Json.member "failureDomain" members)
  let key ← nameOrEmpty (Json.member "failureDomainKey" members)
  let values ← namesOrNone (Json.member "failureDomainValues" members)
  let nodeCount ← (Json.member "nodeCount" members).count
  return ⟨topology, ⟨type, key, values⟩, nodeCount⟩

def topologyDocument (status : Status α) : Except Fault Json :=
  match status.topology with
  | none => .ok .null
  | some topology => topology.toDocument

def domainMembers (status : Status α) : Json.Members := [
  ("failureDomain", (Name.toJson status.domain.type).withSortedMembers),
  ("failureDomainKey", (Name.toJson status.domain.key).withSortedMembers),
  ("failureDomainValues",
    .list (status.domain.values.map fun value => (Name.toJson value).withSortedMembers))]

def toDocument (status : Status α) : Except Fault Json := do
  let counted : Json.Members :=
    [("nodeCount", .int status.nodeCount), ("nodeTopologies", ← status.topologyDocument)]
  return .object (status.domainMembers ++ counted)

def countDigits (status : Status α) : Nat := (Text.ofNat status.nodeCount.natAbs).length

/-- The stored form of a status: its document, one item or member to a line. Where the digits of
integers are limited, the count can have too many. -/
def toText (status : Status α) (limited : Bool := true) : Except Fault Text := do
  let document ← status.toDocument
  if limited && Text.digitLimit < status.countDigits then .error (.integer .notWritable)
  else return document.writeLines 0 ++ "\n"

/-- What is written of a status whose stored form cannot be made: everything before the count, or
nothing when there is no document. -/
def begunText (status : Status α) : Text :=
  match status.toDocument with
  | .error _ => []
  | .ok _ =>
    ((Json.object status.domainMembers).writeLines 0).dropLast.dropLast ++ ","
      ++ Json.lineBreak 1 ++ "\"nodeCount\": "

def relisted (status : Status α) : Except Fault (Status α) :=
  match status.topology with
  | none => .ok status
  | some topology => topology.relisted.map status.withTopology

end Status

/-- A stored status: one whose names are texts, or one that holds other things in their place. -/
inductive StoredStatus where
  | regular (status : Status Text)
  | loose (status : Status Json)

namespace Topology

def loosenedNodes (nodes : KeySet Text) : KeySet Json :=
  ⟨nodes.entries.map fun (node, _) => (Json.text node, ()),
    List.pairwise_map.mpr (nodes.ordered.imp fun _ => rfl)⟩

def loosenedValues (values : Table Text (KeySet Text)) : Table Json (KeySet Json) :=
  ⟨values.entries.map fun (value, nodes) => (Json.text value, loosenedNodes nodes),
    List.pairwise_map.mpr (values.ordered.imp fun _ => rfl)⟩

def loosened (t : Topology Text) : Topology Json where
  table := ⟨t.table.entries.map fun (key, values) => (key, loosenedValues values),
    List.pairwise_map.mpr t.table.ordered⟩
  valued := by
    simp only [List.mem_map, forall_exists_index, and_imp]
    rintro _ entry member rfl
    simpa [loosenedValues, Table.isEmpty] using t.valued entry member

end Topology

def Status.loosened (status : Status Text) : Status Json where
  topology := status.topology.map Topology.loosened
  domain := ⟨.text status.domain.type, .text status.domain.key, status.domain.values.map .text⟩
  nodeCount := status.nodeCount

namespace StoredStatus

def alike (status other : StoredStatus) : Bool :=
  match status, other with
  | .regular status, .regular other => status.alike other
  | .regular status, .loose other => status.loosened.alike other
  | .loose status, .regular other => status.alike other.loosened
  | .loose status, .loose other => status.alike other

def initial : StoredStatus := .regular .initial

def ofMembers (members : Json.Members) : Except Fault StoredStatus :=
  match (Status.ofMembers members : Except Fault (Status Text)) with
  | .ok status => .ok (.regular status)
  | .error _ => (Status.ofMembers members : Except Fault (Status Json)).map .loose

end StoredStatus
end ClusterTopology
