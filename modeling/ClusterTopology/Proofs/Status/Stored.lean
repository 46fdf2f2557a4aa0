import ClusterTopology.Proofs.Json.ReadBack
import ClusterTopology.Proofs.Status.Document
import ClusterTopology.Proofs.Status.Draft

/-!
A stored status read back. Its stored form is a document of texts and one number, so whatever is
read back from it is a status of texts again; only the count can have too many digits to be read.
-/

namespace ClusterTopology

namespace Json

theorem mem_put {member : Text × Json} {members : Members} {name : Text} {value : Json}
    (listed : member ∈ Members.put members name value) :
    member ∈ members ∨ member = (name, value) := by
  induction members with
  | nil => exact Or.inr (List.mem_singleton.mp listed)
  | cons first members ih =>
    obtain ⟨other, old⟩ := first
    unfold Members.put at listed
    split at listed
    · rcases List.mem_cons.mp listed with rfl | later
      · exact Or.inr rfl
      · exact Or.inl (List.mem_cons_of_mem _ later)
    · rcases List.mem_cons.mp listed with rfl | later
      · exact Or.inl List.mem_cons_self
      · rcases ih later with before | here
        · exact Or.inl (List.mem_cons_of_mem _ before)
        · exact Or.inr here

theorem exists_ofMembers (given : List (Text × Json)) :
    ∃ members, ofMembers given = .object members ∧ ∀ member ∈ members, member ∈ given := by
  suffices kept : ∀ (given : List (Text × Json)) (sofar : Members),
      ∀ member ∈ given.foldl (fun sofar entry => Members.put sofar entry.1 entry.2) sofar,
        member ∈ sofar ∨ member ∈ given by
    refine ⟨_, rfl, fun member listed => ?_⟩
    rcases kept given [] member listed with none | listed
    · exact absurd none (by simp)
    · exact listed
  intro given
  induction given with
  | nil => exact fun sofar member listed => Or.inl listed
  | cons first given ih =>
    intro sofar member listed
    rcases ih _ member listed with before | later
    · rcases mem_put before with earlier | here
      · exact Or.inl earlier
      · exact Or.inr (here ▸ List.mem_cons_self)
    · exact Or.inr (List.mem_cons_of_mem _ later)

end Json

namespace Topology

def pairedValues (values : List (Text × List Text)) : Json :=
  Json.ofMembers (values.map fun entry =>
    (entry.1.paired, .list (entry.2.map fun node => .text node.paired)))

def pairedDocument (listing : List (Text × List (Text × List Text))) : Json :=
  Json.ofMembers (listing.map fun entry => (entry.1.paired, pairedValues entry.2))

theorem readsAs_documentOf (limited : Bool) (room : Nat)
    (listing : List (Text × List (Text × List Text))) :
    Json.ReadsAs limited (documentOf listing) (room + 3) (pairedDocument listing) := by
  let valueMember (entry : Text × List Text) : Text × Json := (entry.1, .list (entry.2.map .text))
  have values : ∀ values : List (Text × List Text),
      Json.ReadsAs limited (.object (values.map valueMember)) (room + 2) (pairedValues values) :=
    fun values => Json.readsAs_object fun entry _ => Json.readsAs_texts limited room entry.2
  let keyMember (entry : Text × List (Text × List Text)) : Text × Json :=
    (entry.1, .object (entry.2.map valueMember))
  have keys : Json.ReadsAs limited (.object (listing.map keyMember)) (room + 3)
      (pairedDocument listing) :=
    Json.readsAs_object fun entry _ => values entry.2
  exact keys

theorem exists_ofDocument_pairedDocument (listing : List (Text × List (Text × List Text))) :
    ∃ t : Topology Text, ofDocument (pairedDocument listing) = .ok t := by
  obtain ⟨members, made, among⟩ := Json.exists_ofMembers
    (listing.map fun entry => (entry.1.paired, pairedValues entry.2))
  have held : ∀ member ∈ members, ∃ values, HoldsValues member.2 values := by
    intro member listed
    obtain ⟨entry, _, rfl⟩ := List.mem_map.mp (among member listed)
    show ∃ values, HoldsValues (pairedValues entry.2) values
    obtain ⟨recorded, madeValues, amongValues⟩ := Json.exists_ofMembers
      (entry.2.map fun entry => (entry.1.paired, .list (entry.2.map fun node => .text node.paired)))
    have names : ∀ value ∈ recorded, ∃ names, HoldsNames value.2 names := by
      intro value inside
      obtain ⟨found, _, rfl⟩ := List.mem_map.mp (amongValues value inside)
      exact ⟨found.2.map Text.paired, .items (by simp [Json.elements?, Function.comp_def])⟩
    obtain ⟨values, each⟩ := exists_eachHolds names
    rw [pairedValues, madeValues]
    exact ⟨values, .recorded each⟩
  obtain ⟨recorded, each⟩ := exists_eachHolds held
  rw [pairedDocument, made]
  exact ⟨ofListing recorded, (HoldsListing.members each).ofDocument_eq⟩

end Topology

namespace Status

def pairedTopology (status : Status Text) : Json :=
  match status.topology with
  | none => .null
  | some t => Topology.pairedDocument t.listed

def pairedMembers (status : Status Text) : Json.Members := [
  ("failureDomain", .text status.domain.type.paired),
  ("failureDomainKey", .text status.domain.key.paired),
  ("failureDomainValues", .list ((status.domain.values.map Text.paired).map .text)),
  ("nodeCount", .int status.nodeCount),
  ("nodeTopologies", status.pairedTopology)]

theorem exists_topologyDocument (status : Status Text) :
    ∃ document, status.topologyDocument = .ok document
      ∧ ∀ limited room, Json.ReadsAs limited document (room + 3) status.pairedTopology := by
  unfold topologyDocument pairedTopology
  cases status.topology with
  | none => exact ⟨.null, rfl, fun limited room => Json.readsAs_null limited _⟩
  | some t =>
    exact ⟨_, t.exists_toDocument.1, fun limited room =>
      Topology.readsAs_documentOf limited room t.listed⟩

theorem exists_ofMembers_pairedMembers (status : Status Text) :
    ∃ read : Status Text, StoredStatus.ofMembers status.pairedMembers = .ok (.regular read)
      ∧ read.domain.type = status.domain.type.paired := by
  have found : ∃ found : Option (Topology Text),
      topologyOrNone status.pairedTopology = .ok found := by
    unfold pairedTopology
    cases status.topology with
    | none => exact ⟨none, rfl⟩
    | some t =>
      obtain ⟨found, recorded⟩ := Topology.exists_ofDocument_pairedDocument t.listed
      exact ⟨some found, congrArg (Except.map some) recorded⟩
  obtain ⟨found, recorded⟩ := found
  exact ⟨_, ofMembers_eq_regular recorded _ _ _ _, rfl⟩

theorem exists_toText (status : Status Text) :
    ∃ document : Json, ∀ limited room,
      status.toText limited =
          (if limited && Text.digitLimit < status.countDigits then .error (.integer .notWritable)
          else .ok (document.writeLines 0 ++ [CodePoint.ofChar '\n']))
        ∧ ((limited = true → status.countDigits ≤ Text.digitLimit) →
          Json.ReadsAs limited document (room + 4) (.object status.pairedMembers)) := by
  obtain ⟨document, written, reads⟩ := status.exists_topologyDocument
  let entries : List ((Text × Json) × Json) := [
    (("failureDomain", .text status.domain.type), .text status.domain.type.paired),
    (("failureDomainKey", .text status.domain.key), .text status.domain.key.paired),
    (("failureDomainValues", .list (status.domain.values.map .text)),
      .list (status.domain.values.map fun value => .text value.paired)),
    (("nodeCount", .int status.nodeCount), .int status.nodeCount),
    (("nodeTopologies", document), status.pairedTopology)]
  refine ⟨.object (entries.map Prod.fst), fun limited room => ⟨?_, fun few => ?_⟩⟩
  · unfold toText toDocument
    rw [written]
    rfl
  · have each : ∀ entry ∈ entries, Json.ReadsAs limited entry.1.2 (room + 3) entry.2 := by
      simp only [entries, List.forall_mem_cons]
      exact ⟨Json.readsAs_text _ _ _, Json.readsAs_text _ _ _, Json.readsAs_texts _ _ _,
        Json.readsAs_int _ few, reads limited room, fun _ none => absurd none (by simp)⟩
    have whole := Json.readsAs_object each
    have members :
        entries.map (fun entry => (entry.1.1.paired, entry.2)) = status.pairedMembers := by
      unfold pairedMembers
      rw [List.map_map]
      rfl
    rw [members] at whole
    exact whole

theorem read_of_toText {status : Status Text} {limited : Bool} {text : Text}
    (written : status.toText limited = .ok text) :
    text.all CodePoint.isPlain = true
      ∧ ∀ room : Room, Json.read room.depth text limited = .ok (.object status.pairedMembers) := by
  obtain ⟨document, writes⟩ := status.exists_toText
  have writtenHere := (writes limited 0).1
  rw [written] at writtenHere
  split at writtenHere
  · exact absurd writtenHere (by simp)
  next few =>
  obtain rfl := Except.ok.inj writtenHere
  have readsAs := fun room => (writes limited room).2 (by simpa using few)
  constructor
  · rw [List.all_append, (readsAs 0).plain]
    rfl
  · intro room
    have reads := readsAs (room.depth - 4)
    rw [Nat.sub_add_cancel room.enough] at reads
    exact Json.read_writeLines reads

end Status

namespace StoredStatus

theorem load_of_bytesAt {status : Status Text} {files : Files} {path home text : Text}
    {limited : Bool} (room : Status.Room) (expanded : files.expandHome path = .ok home)
    (isFile : files.isFile home = true) (written : status.toText limited = .ok text)
    (bytes : files.bytesAt home = .ok (Utf8.encode text)) :
    load room files path limited = ofMembers status.pairedMembers := by
  obtain ⟨plain, read⟩ := Status.read_of_toText written
  have readThere : files.readDocument room.depth home limited = .ok (.object status.pairedMembers) := by
    unfold Files.readDocument
    simp only [Files.readText_of_bytesAt bytes, Utf8.decode_encode plain, mapError_ok,
      Except.map, Text.withLineFeeds_of_plain plain, read, bind, Except.bind]
  unfold load
  simp only [expanded, mapError_ok, bind, Except.bind, isFile, readThere, Bool.not_true,
    Bool.false_eq_true, ↓reduceIte]

theorem exists_bytesAt_save {α : Type} [Name α] {status : Status α} {files : Files} {path : Text}
    {limited : Bool} (saved : (status.save files path limited).result = .ok ()) :
    ∃ home text, files.expandHome path = .ok home ∧ status.toText limited = .ok text
      ∧ (status.save files path limited).state.isFile home = true
      ∧ (status.save files path limited).state.bytesAt home = .ok (Utf8.encode text) := by
  obtain ⟨home, text, draft, target, expanded, written, can⟩ :=
    Status.exists_canStore_of_save_done saved
  obtain ⟨isFile, bytes⟩ := can.bytesAt_stored (Utf8.encode text)
  rw [Status.save_eq_done expanded can written]
  exact ⟨home, text, expanded, written, isFile, bytes⟩

theorem load_save {status : Status Text} {files : Files} {path : Text} {limited : Bool}
    (room : Status.Room) (saved : (status.save files path limited).result = .ok ()) :
    load room (status.save files path limited).state path limited =
      ofMembers status.pairedMembers := by
  obtain ⟨home, text, expanded, written, isFile, bytes⟩ := exists_bytesAt_save saved
  have expandedThere := (Status.expandHome_save status files path limited path).trans expanded
  exact load_of_bytesAt room expandedThere isFile written bytes

theorem exists_eq_regular_of_save {status : Status Text} {files : Files} {path : Text}
    (saved : (status.save files path).result = .ok ()) {room : Status.Room} {stored : StoredStatus}
    (loaded : load room (status.save files path).state path = .ok stored) :
    ∃ read : Status Text, stored = .regular read := by
  rw [load_save room saved] at loaded
  obtain ⟨read, recorded, _⟩ := status.exists_ofMembers_pairedMembers
  exact ⟨read, Except.ok.inj (loaded.symm.trans recorded)⟩

end StoredStatus
end ClusterTopology
