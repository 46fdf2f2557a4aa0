import ClusterTopology.Proofs.Topology.Document
import ClusterTopology.Status.Document

/-!
A status of texts through its document, from which it is read back as it was.
-/

namespace ClusterTopology

namespace Status

theorem nameOrEmpty_text (name : Text) : nameOrEmpty (.text name) = .ok name := by
  cases name <;> rfl

theorem namesOrNone_texts (names : List Text) :
    namesOrNone (.list (names.map .text)) = .ok names := by
  unfold namesOrNone
  rw [Json.elementsOrNone_of_elements? rfl]
  simp only [bind, Except.bind]
  rw [mapM_map_eq_ok (fun _ _ => by rfl), List.map_id']

theorem count_int (count : Int) : (Json.int count).count = .ok count := by
  unfold Json.count Json.isBlank
  by_cases zero : count = 0 <;> simp [zero]

theorem topologyOrNone_topologyDocument (status : Status Text) :
    ∃ document, status.topologyDocument = .ok document
      ∧ topologyOrNone document = .ok status.topology := by
  unfold topologyDocument
  cases status.topology with
  | none => exact ⟨.null, rfl, rfl⟩
  | some topology =>
    obtain ⟨written, read⟩ := topology.exists_toDocument
    exact ⟨_, written, congrArg (Except.map some) read⟩

theorem ofMembers_eq_regular {document : Json} {topology : Option (Topology Text)}
    (read : topologyOrNone document = .ok topology) (type key : Text) (values : List Text)
    (count : Int) :
    StoredStatus.ofMembers [("failureDomain", .text type), ("failureDomainKey", .text key),
        ("failureDomainValues", .list (values.map .text)), ("nodeCount", .int count),
        ("nodeTopologies", document)] =
      .ok (.regular ⟨topology, ⟨type, key, values⟩, count⟩) := by
  have loaded : (Status.ofMembers [("failureDomain", .text type), ("failureDomainKey", .text key),
      ("failureDomainValues", .list (values.map .text)), ("nodeCount", .int count),
      ("nodeTopologies", document)] : Except Fault (Status Text)) =
        .ok ⟨topology, ⟨type, key, values⟩, count⟩ := by
    unfold ofMembers
    rw [show Json.member "nodeTopologies" _ = document from rfl, read,
      show Json.member "failureDomain" _ = .text type from rfl, nameOrEmpty_text,
      show Json.member "failureDomainKey" _ = .text key from rfl, nameOrEmpty_text,
      show Json.member "failureDomainValues" _ = .list (values.map .text) from rfl,
      namesOrNone_texts, show Json.member "nodeCount" _ = .int count from rfl, count_int]
    rfl
  unfold StoredStatus.ofMembers
  rw [loaded]

theorem exists_toDocument (status : Status Text) :
    ∃ members, status.toDocument = .ok (.object members)
      ∧ StoredStatus.ofMembers members = .ok (.regular status) := by
  obtain ⟨document, written, read⟩ := status.topologyOrNone_topologyDocument
  refine ⟨_, ?_, ofMembers_eq_regular read status.domain.type status.domain.key status.domain.values
    status.nodeCount⟩
  unfold toDocument
  rw [written]
  rfl

end Status
end ClusterTopology
