import ClusterTopology.Proofs.Outcome
import ClusterTopology.Proofs.Topology.Contents
import ClusterTopology.Topology.Document

/-!
A topology of texts through its listing and its document. Both hold every key, value and node, so
reading them back gives the same topology.
-/

namespace ClusterTopology

theorem Json.elementsOrNone_of_elements? {document : Json} {items : List Json}
    (elements : document.elements? = some items) : document.elementsOrNone = .ok items := by
  unfold elementsOrNone
  cases blank : document.isBlank with
  | false => rw [Json.elements, elements]; rfl
  | true =>
    have nothing : items = [] := by cases document <;> simp_all [elements?, isBlank]
    rw [nothing]
    rfl

namespace Topology

def listedValues (values : Table Text (KeySet Text)) : List (Text × List Text) :=
  values.entries.map fun (value, nodes) => (value, nodes.keys)

def listed (t : Topology Text) : List (Text × List (Text × List Text)) :=
  t.table.entries.map fun (key, values) => (key, listedValues values)

theorem valuesOf_of_mem {t : Topology Text} {key : Text} {values : Table Text (KeySet Text)}
    (member : (key, values) ∈ t.table.entries) : t.valuesOf key = values := by
  unfold valuesOf
  rw [(t.table.find?_eq_some_iff key values).mpr member]
  rfl

theorem nodesOf_of_mem {t : Topology Text} {key value : Text} {nodes : KeySet Text}
    (member : (value, nodes) ∈ (t.valuesOf key).entries) : t.nodesOf key value = nodes := by
  unfold nodesOf
  rw [((t.valuesOf key).find?_eq_some_iff value nodes).mpr member]
  rfl

theorem listing_eq (t : Topology Text) : t.listing = .ok t.listed := by
  unfold listing listed
  apply mapM_map_eq_ok
  rintro ⟨key, values⟩ member
  obtain rfl := valuesOf_of_mem member
  have recorded : (t.valuesOf key).keys.mapM (fun value =>
        match Name.listing? (t.nodesOf key value).keys with
        | some nodes => (.ok (value, nodes) : Except Fault (Text × List Text))
        | none => .error (.kind .noOrder)) =
      .ok (listedValues (t.valuesOf key)) := by
    apply mapM_map_eq_ok
    rintro ⟨value, nodes⟩ inside
    rw [nodesOf_of_mem inside]
    rfl
  exact congrArg (fun found => found.map fun recorded => (key, recorded)) recorded

theorem find?_valuesOf_of_listed {t : Topology Text} {entry : Text × List (Text × List Text)}
    {recorded : Text × List Text} (listed : entry ∈ t.listed) (inside : recorded ∈ entry.2) :
    ∃ nodes, (t.valuesOf entry.1).find? recorded.1 = some nodes ∧ recorded.2 = nodes.keys := by
  obtain ⟨⟨key, values⟩, member, rfl⟩ := List.mem_map.mp listed
  obtain ⟨⟨value, nodes⟩, among, rfl⟩ := List.mem_map.mp inside
  refine ⟨nodes, ?_, rfl⟩
  show (t.valuesOf key).find? value = some nodes
  rw [valuesOf_of_mem member]
  exact (values.find?_eq_some_iff value nodes).mpr among

theorem exists_listed_of_find? {t : Topology Text} {key value : Text} {nodes : KeySet Text}
    (found : (t.valuesOf key).find? value = some nodes) :
    ∃ entry ∈ t.listed, key = entry.1 ∧ (value, nodes.keys) ∈ entry.2 := by
  unfold valuesOf at found
  cases there : t.table.find? key with
  | none =>
    rw [there] at found
    exact absurd found (by simp)
  | some values =>
    rw [there, Option.getD_some] at found
    have member := (t.table.find?_eq_some_iff key values).mp there
    have inside := (values.find?_eq_some_iff value nodes).mp found
    exact ⟨_, List.mem_map.mpr ⟨_, member, rfl⟩, rfl, List.mem_map.mpr ⟨_, inside, rfl⟩⟩

theorem contents_listed (t : Topology Text) : Contents.ofListing t.listed = t.contents := by
  apply Contents.ext
  · funext key value
    apply propext
    constructor
    · intro ⟨entry, listed, sameKey, recorded, inside, sameValue⟩
      obtain ⟨nodes, found, _⟩ := find?_valuesOf_of_listed listed inside
      rw [sameKey, sameValue]
      exact Table.contains_iff.mpr ⟨nodes, found⟩
    · intro has
      obtain ⟨nodes, found⟩ := Table.contains_iff.mp has
      obtain ⟨entry, listed, sameKey, inside⟩ := exists_listed_of_find? found
      exact ⟨entry, listed, sameKey, _, inside, rfl⟩
  · funext key value node
    apply propext
    show _ ↔ (((t.valuesOf key).find? value).getD .empty).contains node = true
    constructor
    · intro ⟨entry, listed, sameKey, recorded, inside, sameValue, among⟩
      obtain ⟨nodes, found, same⟩ := find?_valuesOf_of_listed listed inside
      rw [sameKey, sameValue, found, Option.getD_some, ← Table.mem_keys_iff, ← same]
      exact among
    · intro has
      cases found : (t.valuesOf key).find? value with
      | none =>
        rw [found] at has
        exact absurd has (by simp)
      | some nodes =>
        obtain ⟨entry, listed, sameKey, inside⟩ := exists_listed_of_find? found
        rw [found, Option.getD_some] at has
        exact ⟨entry, listed, sameKey, _, inside, rfl, Table.mem_keys_iff.mpr has⟩

theorem ofListing_listed (t : Topology Text) : ofListing t.listed = t := by
  apply eq_of_contents
  calc (ofListing t.listed).contents
    _ = Contents.ofListing t.listed := contents_ofListing t.listed
    _ = t.contents := contents_listed t

theorem relisted_eq (t : Topology Text) : t.relisted = .ok t := by
  unfold relisted
  rw [listing_eq, Except.map, ofListing_listed]

/-! Reading a document that holds a listing. -/

theorem addNodes_texts (key value : Text) (nodes : List Text) (t : Topology Text) :
    addNodes key value t (nodes.map .text) =
      .ok (nodes.foldl (fun t node => t.addNode key value node) t) := by
  induction nodes generalizing t with
  | nil => rfl
  | cons node nodes ih => exact ih (t.addNode key value node)

theorem addValues_texts (key : Text) (values : List Text) (t : Topology Text) :
    addValues key t (values.map .text) =
      .ok ((values.map fun value => (value, [])).foldl
        (fun t (value, nodes) => t.addListed key value nodes) t) := by
  induction values generalizing t with
  | nil => rfl
  | cons value values ih => exact ih (t.addValue key value)

inductive EachHolds {β : Type} (holds : Json → β → Prop) : Json.Members → List (Text × β) → Prop where
  | nil : EachHolds holds [] []
  | cons {name : Text} {document : Json} {content : β} {members : Json.Members}
      {entries : List (Text × β)} (first : holds document content)
      (rest : EachHolds holds members entries) :
      EachHolds holds ((name, document) :: members) ((name, content) :: entries)

inductive HoldsNames : Json → List Text → Prop where
  | absent {document : Json} (blank : document.isBlank = true) : HoldsNames document []
  | items {document : Json} {names : List Text}
      (elements : document.elements? = some (names.map .text)) : HoldsNames document names

/-- The values that a document holds for a key: a bare list, or an object with nodes for each. -/
inductive HoldsValues : Json → List (Text × List Text) → Prop where
  | bare (values : List Text) :
      HoldsValues (.list (values.map .text)) (values.map fun value => (value, []))
  | recorded {members : Json.Members} {values : List (Text × List Text)}
      (each : EachHolds HoldsNames members values) : HoldsValues (.object members) values

inductive HoldsListing : Json → Listing → Prop where
  | absent {document : Json} (blank : document.isBlank = true) : HoldsListing document []
  | members {members : Json.Members} {listing : Listing}
      (each : EachHolds HoldsValues members listing) : HoldsListing (.object members) listing

theorem exists_eachHolds {β : Type} {holds : Json → β → Prop} {members : Json.Members}
    (held : ∀ member ∈ members, ∃ content, holds member.2 content) :
    ∃ entries, EachHolds holds members entries := by
  induction members with
  | nil => exact ⟨[], .nil⟩
  | cons member members ih =>
    obtain ⟨content, holds⟩ := held member List.mem_cons_self
    obtain ⟨entries, each⟩ := ih fun other listed => held other (List.mem_cons_of_mem _ listed)
    exact ⟨(member.1, content) :: entries, .cons holds each⟩

theorem eachHolds_map {β : Type} {holds : Json → β → Prop} {documentOf : β → Json}
    (held : ∀ content, holds (documentOf content) content) (entries : List (Text × β)) :
    EachHolds holds (entries.map fun entry => (entry.1, documentOf entry.2)) entries := by
  induction entries with
  | nil => exact .nil
  | cons entry entries ih => exact .cons (held entry.2) ih

theorem HoldsNames.elementsOrNone_eq {document : Json} {names : List Text}
    (holds : HoldsNames document names) : document.elementsOrNone = .ok (names.map .text) := by
  cases holds with
  | absent blank => exact if_pos blank
  | items elements => exact Json.elementsOrNone_of_elements? elements

theorem addRecorded_of_holds {members : Json.Members} {values : List (Text × List Text)}
    (key : Text) (each : EachHolds HoldsNames members values) (t : Topology Text) :
    addRecorded key t members =
      .ok (values.foldl (fun t (value, nodes) => t.addListed key value nodes) t) := by
  induction each generalizing t with
  | nil => rfl
  | @cons value _ nodes _ _ holds _ ih =>
    have added : addNodes key value (t.addValue key value) (nodes.map .text) =
        .ok (t.addListed key value nodes) := addNodes_texts key value nodes _
    simp only [addRecorded, holds.elementsOrNone_eq, Name.ofText, id, bind, Except.bind, added]
    exact ih (t.addListed key value nodes)

theorem addMembers_of_holds {members : Json.Members} {listing : Listing}
    (each : EachHolds HoldsValues members listing) (t : Topology Text) :
    addMembers t members =
      .ok (listing.foldl (fun t (key, values) =>
        values.foldl (fun t (value, nodes) => t.addListed key value nodes) t) t) := by
  induction each generalizing t with
  | nil => rfl
  | @cons key _ _ _ _ holds _ ih =>
    cases holds with
    | bare values =>
      rw [addMembers, addValues_texts]
      exact ih _
    | recorded each =>
      rw [addMembers, addRecorded_of_holds key each]
      exact ih _

/-- What is read of a document is made of the listing that it holds. -/
theorem HoldsListing.ofDocument_eq {document : Json} {listing : Listing}
    (holds : HoldsListing document listing) : ofDocument document = .ok (ofListing listing) := by
  unfold ofDocument
  cases holds with
  | absent blank => rw [if_pos blank]; rfl
  | members each =>
    cases each with
    | nil => rfl
    | cons first rest => exact addMembers_of_holds (.cons first rest) empty

theorem holdsListing_documentOf (listing : Listing) : HoldsListing (documentOf listing) listing := by
  have names : ∀ names : List Text, HoldsNames (.list (names.map .text)) names := fun _ => .items rfl
  have values : ∀ values : List (Text × List Text), HoldsValues
      (.object (values.map fun value => (value.1, .list (value.2.map .text)))) values :=
    fun values => .recorded (eachHolds_map names values)
  exact .members (eachHolds_map values listing)

theorem exists_toDocument (t : Topology Text) :
    t.toDocument = .ok (documentOf t.listed) ∧ ofDocument (documentOf t.listed) = .ok t := by
  constructor
  · unfold toDocument
    rw [listing_eq]
    rfl
  · rw [(holdsListing_documentOf t.listed).ofDocument_eq, ofListing_listed]

end Topology
end ClusterTopology
