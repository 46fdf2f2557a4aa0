import ClusterTopology.Proofs.Config

/-!
Which documents are node lists. Every item of a list is an object with a name, no two items have names
that show alike, and labels are an object unless they count as absent. Just these lists are read, each
item as one node; of any other list the first item at fault is reported.
-/

namespace ClusterTopology

def Json.member? (name : Text) : Json → Option Json
  | .object members => members.lookup name
  | _ => none

namespace Node

def GivesName (item : Json) (name : Text) : Prop :=
  ∃ given, item.member? "name" = some given ∧ given.isBlank = false ∧ given.shown = name

def HasLabels (item : Json) : Prop :=
  ∀ given, item.member? "labels" = some given →
    given.isBlank = true ∨ ∃ labels, given = .object labels

/-- The labels that an item gives to a node are those of an object, each in the form in which it shows.
Of a repeated label the last one counts. -/
def GivesLabels (item : Json) (labels : Labels) : Prop :=
  ∀ label text, labels.find? label = some text ↔
    ∃ front value back, item.member? "labels" = some (.object (front ++ (label, value) :: back))
      ∧ label ∉ back.map Prod.fst ∧ value.shown = text

structure Describes (item : Json) (node : Node) : Prop where
  name : GivesName item node.name
  labels : GivesLabels item node.labels

/-- Items that describe nodes with names of their own. -/
structure IsNodeList (items : List Json) : Prop where
  named : ∀ item ∈ items, ∃ name, GivesName item name
  distinct : items.Pairwise fun item later => ∀ name, GivesName item name → ¬GivesName later name
  labelled : ∀ item ∈ items, HasLabels item

/-- An item fits behind others. -/
def Fits (earlier : List Json) (item : Json) : Prop :=
  (∃ name, GivesName item name ∧ ∀ other ∈ earlier, ¬GivesName other name) ∧ HasLabels item

/-- What is wrong with an item behind others. -/
inductive Offends (earlier : List Json) : Json → FormFault → Prop
  | unnamed {item : Json} (nameless : ∀ name, ¬GivesName item name) :
    Offends earlier item (.nodeWithoutName item)
  | repeated {item other : Json} {name : Text} (gives : GivesName item name)
    (listed : other ∈ earlier) (alsoGives : GivesName other name) :
    Offends earlier item (.nodeNameRepeated name)
  | unlabelled {item given : Json} {name : Text} (gives : GivesName item name)
    (fresh : ∀ other ∈ earlier, ¬GivesName other name) (labels : item.member? "labels" = some given)
    (present : given.isBlank = false) (noObject : ∀ labels, given ≠ .object labels) :
    Offends earlier item (.nodeLabelsNotNamed name given)

theorem GivesName.unique {item : Json} {name other : Text} (gives : GivesName item name)
    (alsoGives : GivesName item other) : name = other := by
  obtain ⟨given, found, _, rfl⟩ := gives
  obtain ⟨also, alsoFound, _, rfl⟩ := alsoGives
  rw [Option.some.inj (found.symm.trans alsoFound)]

theorem Describes.unique {item : Json} {node other : Node} (describes : Describes item node)
    (also : Describes item other) : node = other := by
  obtain ⟨name, labels⟩ := node
  obtain ⟨otherName, otherLabels⟩ := other
  obtain rfl : name = otherName := describes.name.unique also.name
  have sameLabels : labels = otherLabels := by
    apply Table.ext_find?
    intro label
    apply Option.ext
    intro text
    exact (describes.labels label text).trans (also.labels label text).symm
  rw [sameLabels]

section

variable {earlier items later : List Json} {item : Json}

theorem isNodeList_concat_iff : IsNodeList (earlier ++ [item]) ↔ IsNodeList earlier ∧ Fits earlier item := by
  constructor
  · intro list
    have ⟨distinct, _, across⟩ := List.pairwise_append.mp list.distinct
    obtain ⟨name, gives⟩ := list.named item (by simp)
    refine ⟨⟨fun other member => list.named other (List.mem_append_left _ member), distinct,
      fun other member => list.labelled other (List.mem_append_left _ member)⟩,
      ⟨name, gives, fun other member also => ?_⟩, list.labelled item (by simp)⟩
    exact across other member item (by simp) name also gives
  · rintro ⟨list, ⟨name, gives, fresh⟩, labelled⟩
    refine ⟨?_, ?_, ?_⟩
    · exact List.forall_mem_append.mpr ⟨list.named, by simpa using ⟨name, gives⟩⟩
    · refine List.pairwise_append.mpr ⟨list.distinct, by simp, fun other member last only name' also again => ?_⟩
      obtain rfl := List.mem_singleton.mp only
      exact fresh other member (again.unique gives ▸ also)
    · exact List.forall_mem_append.mpr ⟨list.labelled, by simpa using labelled⟩

theorem IsNodeList.of_append (list : IsNodeList (earlier ++ later)) : IsNodeList earlier where
  named other member := list.named other (List.mem_append_left _ member)
  distinct := (List.pairwise_append.mp list.distinct).1
  labelled other member := list.labelled other (List.mem_append_left _ member)

theorem fits_or_offends (earlier : List Json) (item : Json) :
    Fits earlier item ∨ ∃ fault, Offends earlier item fault := by
  by_cases named : ∃ name, GivesName item name
  · obtain ⟨name, gives⟩ := named
    by_cases fresh : ∀ other ∈ earlier, ¬GivesName other name
    · by_cases labelled : HasLabels item
      · exact Or.inl ⟨⟨name, gives, fresh⟩, labelled⟩
      · simp only [HasLabels, not_forall, not_or, not_exists] at labelled
        obtain ⟨given, found, present, noObject⟩ := labelled
        exact Or.inr ⟨_, .unlabelled gives fresh found (by simpa using present) noObject⟩
    · simp only [not_forall, not_not] at fresh
      obtain ⟨other, listed, also⟩ := fresh
      exact Or.inr ⟨_, .repeated gives listed also⟩
  · exact Or.inr ⟨_, .unnamed (not_exists.mp named)⟩

theorem isNodeList_or_exists_offends (items : List Json) :
    IsNodeList items ∨ ∃ earlier item later fault, items = earlier ++ item :: later
      ∧ IsNodeList earlier ∧ Offends earlier item fault := by
  induction items using List.reverseRecOn with
  | nil => exact Or.inl ⟨by simp, List.Pairwise.nil, by simp⟩
  | append_singleton earlier item ih =>
    rcases ih with list | ⟨before, first, after, fault, rfl, list, offends⟩
    · rcases fits_or_offends earlier item with fits | ⟨fault, offends⟩
      · exact Or.inl (isNodeList_concat_iff.mpr ⟨list, fits⟩)
      · exact Or.inr ⟨earlier, item, [], fault, rfl, list, offends⟩
    · exact Or.inr ⟨before, first, after ++ [item], fault, by simp, list, offends⟩

end

/-! Reading a list. -/

/-- The names that were seen are those of the items before. -/
def Seen (earlier : List Json) (seen : List Text) : Prop :=
  ∀ name, name ∈ seen ↔ ∃ other ∈ earlier, GivesName other name

theorem Seen.concat {earlier : List Json} {seen : List Text} {item : Json} {name : Text}
    (known : Seen earlier seen) (gives : GivesName item name) :
    Seen (earlier ++ [item]) (name :: seen) := by
  intro other
  rw [List.mem_cons, known]
  constructor
  · rintro (rfl | ⟨before, listed, also⟩)
    · exact ⟨item, by simp, gives⟩
    · exact ⟨before, List.mem_append_left _ listed, also⟩
  · rintro ⟨before, listed, also⟩
    rcases List.mem_append.mp listed with listed | only
    · exact Or.inr ⟨before, listed, also⟩
    · obtain rfl := List.mem_singleton.mp only
      exact Or.inl (also.unique gives)

theorem listFrom_cons_of_gives {item : Json} {name : Text} (gives : GivesName item name)
    (seen : List Text) (items : List Json) :
    listFrom seen (item :: items) =
      if name ∈ seen then .error (.form (.nodeNameRepeated name))
      else do
        let labels ← labelsOfDocument name ((item.member? "labels").getD .null)
        return ⟨name, labels⟩ :: (← listFrom (name :: seen) items) := by
  obtain ⟨given, found, present, rfl⟩ := gives
  cases item with
  | object members =>
    have there : Json.member "name" members = given := by
      rw [Json.member, Json.memberOr, show members.lookup _ = some given from found]
      rfl
    simp only [listFrom, there, present, List.contains_iff_mem]
    rfl
  | _ => exact absurd found (by simp [Json.member?])

theorem listFrom_cons_of_nameless {item : Json} (nameless : ∀ name, ¬GivesName item name)
    (seen : List Text) (items : List Json) :
    listFrom seen (item :: items) = .error (.form (.nodeWithoutName item)) := by
  cases item with
  | object members =>
    have blank : (Json.member "name" members).isBlank = true := by
      cases found : members.lookup ("name" : Text) with
      | none =>
        rw [Json.member, Json.memberOr, found]
        rfl
      | some given =>
        rw [Json.member, Json.memberOr, found, Option.getD_some]
        by_contra present
        exact nameless given.shown ⟨given, found, by simpa using present, rfl⟩
    simp only [listFrom, blank, ↓reduceIte]
  | _ => rfl

theorem exists_labelsOfDocument {item : Json} (labelled : HasLabels item) (name : Text) :
    ∃ labels, labelsOfDocument name ((item.member? "labels").getD .null) = .ok labels
      ∧ GivesLabels item labels := by
  unfold GivesLabels
  cases found : item.member? "labels" with
  | none => exact ⟨.empty, rfl, by simp⟩
  | some given =>
    rw [Option.getD_some]
    cases blank : given.isBlank with
    | true =>
      refine ⟨.empty, if_pos blank, fun label text => ⟨fun nothing => absurd nothing (by simp), ?_⟩⟩
      rintro ⟨front, value, back, same, _⟩
      rw [Option.some.inj same] at blank
      exact absurd blank (by simp [Json.isBlank])
    | false =>
      obtain ⟨labels, rfl⟩ := (labelled given found).resolve_left (by simp [blank])
      have read : labelsOfDocument name (.object labels) =
          .ok (.ofList (labels.map fun entry => (entry.1, entry.2.shown))) := by
        rw [labelsOfDocument, blank]
        rfl
      refine ⟨_, read, fun label text => ?_⟩
      rw [Table.find?_ofList_map_eq_some_iff]
      simp only [Option.some.injEq, Json.object.injEq]

theorem exists_listFrom_cons_of_fits {earlier : List Json} {seen : List Text} {item : Json}
    (known : Seen earlier seen) (fits : Fits earlier item) :
    ∃ node, Describes item node
      ∧ ∀ items, listFrom seen (item :: items) =
        (listFrom (node.name :: seen) items).map (node :: ·) := by
  obtain ⟨⟨name, gives, fresh⟩, labelled⟩ := fits
  have unseen : name ∉ seen := by
    rw [known]
    exact fun ⟨other, listed, also⟩ => fresh other listed also
  obtain ⟨labels, read, givesLabels⟩ := exists_labelsOfDocument labelled name
  refine ⟨⟨name, labels⟩, ⟨gives, givesLabels⟩, fun items => ?_⟩
  rw [listFrom_cons_of_gives gives, if_neg unseen, read]
  cases listFrom (name :: seen) items <;> rfl

theorem listFrom_cons_of_offends {earlier : List Json} {seen : List Text} {item : Json}
    {fault : FormFault} (known : Seen earlier seen) (offends : Offends earlier item fault)
    (items : List Json) : listFrom seen (item :: items) = .error (.form fault) := by
  cases offends with
  | unnamed nameless => exact listFrom_cons_of_nameless nameless seen items
  | repeated gives listed also =>
    rw [listFrom_cons_of_gives gives, if_pos ((known _).mpr ⟨_, listed, also⟩)]
  | @unlabelled given name gives fresh found present noObject =>
    have unseen : name ∉ seen := by
      rw [known]
      exact fun ⟨other, listed, also⟩ => fresh other listed also
    have refused : labelsOfDocument name given = .error (.form (.nodeLabelsNotNamed name given)) := by
      cases given with
      | object labels => exact absurd rfl (noObject labels)
      | _ => simp [labelsOfDocument, present]
    rw [listFrom_cons_of_gives gives, if_neg unseen, found, Option.getD_some, refused]
    rfl

theorem exists_listFrom_append {items earlier : List Json} {seen : List Text}
    (known : Seen earlier seen) (list : IsNodeList (earlier ++ items)) :
    ∃ nodes names, List.Forall₂ Describes items nodes ∧ Seen (earlier ++ items) names
      ∧ ∀ later, listFrom seen (items ++ later) = (listFrom names later).map (nodes ++ ·) := by
  induction items generalizing earlier seen with
  | nil =>
    refine ⟨[], seen, .nil, by simpa using known, fun later => ?_⟩
    rw [List.nil_append]
    cases listFrom seen later <;> rfl
  | cons item items ih =>
    rw [List.append_cons] at list
    obtain ⟨_, fits⟩ := isNodeList_concat_iff.mp list.of_append
    obtain ⟨node, describes, read⟩ := exists_listFrom_cons_of_fits known fits
    obtain ⟨nodes, names, described, knownAll, rest⟩ := ih (known.concat describes.name) list
    refine ⟨node :: nodes, names, .cons describes described, by rwa [List.append_cons],
      fun later => ?_⟩
    rw [List.cons_append, read, rest]
    cases listFrom names later <;> rfl

theorem seen_nil : Seen [] [] := fun name => by simp

theorem listOfDocument_of_isNodeList {items : List Json} (list : IsNodeList items) :
    ∃ nodes, listOfDocument (.list items) = .ok nodes ∧ List.Forall₂ Describes items nodes := by
  obtain ⟨nodes, names, described, _, read⟩ := exists_listFrom_append seen_nil list
  refine ⟨nodes, ?_, described⟩
  have whole := read []
  rw [List.append_nil] at whole
  rw [listOfDocument, whole, listFrom, Except.map, List.append_nil]

theorem listOfDocument_of_offends {earlier later : List Json} {item : Json} {fault : FormFault}
    (list : IsNodeList earlier) (offends : Offends earlier item fault) :
    listOfDocument (.list (earlier ++ item :: later)) = .error (.form fault) := by
  obtain ⟨nodes, names, _, known, read⟩ := exists_listFrom_append seen_nil list
  rw [listOfDocument, read, listFrom_cons_of_offends known offends]
  rfl

theorem listOfDocument_of_unlisted {document : Json} (unlisted : ∀ items, document ≠ .list items) :
    listOfDocument document = .error (.form (.nodesNotListed document)) := by
  cases document with
  | list items => exact absurd rfl (unlisted items)
  | _ => rfl

theorem isNodeList_or_exists_failure (document : Json) :
    (∃ items, document = .list items ∧ IsNodeList items)
      ∨ ((∀ items, document ≠ .list items)
        ∧ listOfDocument document = .error (.form (.nodesNotListed document)))
      ∨ ∃ earlier item later offence, document = .list (earlier ++ item :: later)
        ∧ IsNodeList earlier ∧ Offends earlier item offence
        ∧ listOfDocument document = .error (.form offence) := by
  by_cases listed : ∃ items, document = .list items
  · obtain ⟨items, rfl⟩ := listed
    rcases isNodeList_or_exists_offends items with list | ⟨earlier, item, later, offence, rfl, list, offends⟩
    · exact Or.inl ⟨items, rfl, list⟩
    · exact Or.inr (Or.inr ⟨earlier, item, later, offence, rfl, list, offends,
        listOfDocument_of_offends list offends⟩)
  · have unlisted := not_exists.mp listed
    exact Or.inr (Or.inl ⟨unlisted, listOfDocument_of_unlisted unlisted⟩)

theorem describes_unique {items : List Json} {nodes others : List Node}
    (described : List.Forall₂ Describes items nodes) (also : List.Forall₂ Describes items others) :
    nodes = others := by
  induction described generalizing others with
  | nil => exact (List.forall₂_nil_left_iff.mp also).symm
  | cons describes _ ih =>
    cases also with
    | cons describesOther rest => rw [describes.unique describesOther, ih rest]

/-- A document is read just when it is a list in which every item is an object with a name that counts
as present, no two names show alike, and labels are missing, count as absent or are an object. Read are
then the nodes that the items describe, in their order, with names of their own that are not empty.
Otherwise the fault is that the document is no list, or that of the first item that does not fit behind
those before it. -/
theorem node_list_read_iff_well_formed (document : Json) :
    (∀ nodes, listOfDocument document = .ok nodes ↔
        ∃ items, document = .list items ∧ IsNodeList items ∧ List.Forall₂ Describes items nodes)
      ∧ (∀ items, document = .list items → IsNodeList items →
        ∃ nodes, listOfDocument document = .ok nodes)
      ∧ (∀ nodes, listOfDocument document = .ok nodes →
        (nodes.map Node.name).Nodup ∧ ∀ node ∈ nodes, node.name ≠ [])
      ∧ ∀ fault, listOfDocument document = .error fault ↔
        ((∀ items, document ≠ .list items) ∧ fault = .form (.nodesNotListed document))
          ∨ ∃ earlier item later offence, document = .list (earlier ++ item :: later)
            ∧ IsNodeList earlier ∧ Offends earlier item offence ∧ fault = .form offence := by
  refine ⟨fun nodes => ?_, ?_, fun nodes read => ?_, fun fault => ?_⟩
  · constructor
    · intro read
      obtain ⟨items, rfl, list⟩ : ∃ items, document = .list items ∧ IsNodeList items := by
        rcases isNodeList_or_exists_failure document with list | ⟨_, failed⟩ | ⟨_, _, _, _, _, _, _, failed⟩
        · exact list
        · exact absurd (read.symm.trans failed) (by simp)
        · exact absurd (read.symm.trans failed) (by simp)
      obtain ⟨others, alsoRead, described⟩ := listOfDocument_of_isNodeList list
      obtain rfl := Except.ok.inj (read.symm.trans alsoRead)
      exact ⟨items, rfl, list, described⟩
    · rintro ⟨items, rfl, list, described⟩
      obtain ⟨others, read, also⟩ := listOfDocument_of_isNodeList list
      rw [read, describes_unique described also]
  · rintro items rfl list
    obtain ⟨nodes, read, _⟩ := listOfDocument_of_isNodeList list
    exact ⟨nodes, read⟩
  · exact ⟨nodup_listOfDocument read, name_ne_nil_of_listOfDocument read⟩
  · constructor
    · intro failed
      rcases isNodeList_or_exists_failure document with ⟨items, rfl, list⟩ | ⟨unlisted, also⟩
        | ⟨earlier, item, later, offence, rfl, list, offends, also⟩
      · obtain ⟨nodes, read, _⟩ := listOfDocument_of_isNodeList list
        exact absurd (failed.symm.trans read) (by simp)
      · exact Or.inl ⟨unlisted, Except.error.inj (failed.symm.trans also)⟩
      · exact Or.inr ⟨earlier, item, later, offence, rfl, list, offends,
          Except.error.inj (failed.symm.trans also)⟩
    · rintro (⟨unlisted, rfl⟩ | ⟨earlier, item, later, offence, rfl, list, offends, rfl⟩)
      · exact listOfDocument_of_unlisted unlisted
      · exact listOfDocument_of_offends list offends

/-! Numbers as names: an integer and a float show differently, an integer and its text do not. -/

def numbered (name : Json) : Json := .object [("name", name), ("labels", .object [("tier", .int 2)])]

def floatOne : Json := .float (.ofDecimal false 1 1 0)

def firstTwo : List Json := [numbered (.int 1), numbered floatOne]

def nodesOfFirstTwo : List Node :=
  [⟨"1", .ofList [("tier", "2")]⟩, ⟨"1.0", .ofList [("tier", "2")]⟩]

/-- Nodes named by `1` and by `1.0` are read, with the number of the tier as a text, and after them a
node named by the text `1` is one too many. -/
theorem one_read_beside_float_one :
    listOfDocument (.list firstTwo) = .ok nodesOfFirstTwo
      ∧ (IsNodeList firstTwo ∧ (nodesOfFirstTwo.map Node.name).Nodup)
      ∧ listOfDocument (.list (firstTwo ++ [numbered (.text "1")])) =
        .error (.form (.nodeNameRepeated "1")) := by
  have read : listOfDocument (.list firstTwo) = .ok nodesOfFirstTwo := by rfl
  have ⟨read_iff, _, distinct, _⟩ := node_list_read_iff_well_formed (.list firstTwo)
  obtain ⟨items, same, list, _⟩ := (read_iff nodesOfFirstTwo).mp read
  obtain rfl : firstTwo = items := Json.list.inj same
  have one : GivesName (numbered (.int 1)) "1" := ⟨.int 1, rfl, rfl, by decide⟩
  have text : GivesName (numbered (.text "1")) "1" := ⟨.text "1", rfl, rfl, rfl⟩
  have ⟨_, _, _, failed_iff⟩ :=
    node_list_read_iff_well_formed (.list (firstTwo ++ [numbered (.text "1")]))
  refine ⟨read, ⟨list, (distinct _ read).1⟩, (failed_iff _).mpr (Or.inr ?_)⟩
  exact ⟨firstTwo, numbered (.text "1"), [], _, rfl, list, .repeated text List.mem_cons_self one, rfl⟩

end Node
end ClusterTopology
