import ClusterTopology.Planner.Plan
import ClusterTopology.Proofs.Status.Storage
import ClusterTopology.Proofs.Topology.Document

/-!
Malformed input of the planner. Node lists and selectors that do not have their form are reported as
such, and so are texts that are no documents and files that are no texts. One look is missing: the
expressions of a selector and the values of an expression are gone through whatever they are, and
`true` and numbers other than zero have no items. What is nested too deeply is not reported either.
-/

namespace ClusterTopology

def Fault.IsForm (fault : Fault) : Prop := ∃ form, fault = .form form

theorem Fault.isForm (form : FormFault) : (Fault.form form).IsForm := ⟨form, rfl⟩

theorem Fault.IsForm.isInvalidInput {fault : Fault} (isForm : fault.IsForm) :
    fault.isInvalidInput = true := by
  obtain ⟨form, rfl⟩ := isForm
  rfl

namespace Node

theorem labelsOfDocument_failsOnly (name : Text) (document : Json) :
    FailsOnlyWith Fault.IsForm (labelsOfDocument name document) := by
  unfold labelsOfDocument
  split
  · exact .ok _
  · split
    · exact .ok _
    · exact .error (Fault.isForm _)

theorem listFrom_failsOnly (seen : List Text) (items : List Json) :
    FailsOnlyWith Fault.IsForm (listFrom seen items) := by
  induction items generalizing seen with
  | nil => exact .ok _
  | cons item items ih =>
    unfold listFrom
    split
    · split
      · exact .error (Fault.isForm _)
      · dsimp only
        split
        · exact .error (Fault.isForm _)
        · exact .bind (labelsOfDocument_failsOnly _ _) fun _ _ =>
            .bind (ih _) fun _ _ => .ok _
    · exact .error (Fault.isForm _)

theorem listOfDocument_failsOnly (document : Json) :
    FailsOnlyWith Fault.IsForm (listOfDocument document) := by
  unfold listOfDocument
  split
  · exact listFrom_failsOnly _ _
  · exact .error (Fault.isForm _)

end Node

/-- `true` and numbers other than zero: they do not count as absent, and they have no items. -/
def Json.IsItemless : Json → Prop
  | .bool value => value = true
  | .int value => value ≠ 0
  | .float (.finite _ significand _) => significand ≠ 0
  | .float _ => True
  | _ => False

theorem Json.isItemless_iff {document : Json} :
    document.IsItemless ↔ document.isBlank = false ∧ document.elements? = none := by
  cases document with
  | float value => cases value <;> simp [IsItemless, isBlank, elements?]
  | _ => simp [IsItemless, isBlank, elements?]

theorem Json.elementsOrNone_eq_error_iff {document : Json} {fault : Fault} :
    document.elementsOrNone = .error fault ↔ document.IsItemless ∧ fault = .kind .noItems := by
  rw [isItemless_iff]
  unfold elementsOrNone elements
  cases document.isBlank with
  | true => simp
  | false => cases document.elements? <;> simp [eq_comm]

theorem Json.eq_list_of_object_mem {document : Json} {items : List Json} {members : Members}
    (gone : document.elementsOrNone = .ok items) (member : .object members ∈ items) :
    document = .list items := by
  have some : document.elements? = some items := by
    unfold elementsOrNone elements at gone
    split at gone
    · obtain rfl := Except.ok.inj gone
      exact absurd member (by simp)
    · split at gone
      · next found => rw [found, Except.ok.inj gone]
      · exact absurd gone (by simp)
  cases document with
  | list listed => rw [Option.some.inj some]
  | object named =>
    rw [← Option.some.inj some] at member
    exact absurd member (by simp)
  | text value =>
    rw [← Option.some.inj some] at member
    exact absurd member (by simp)
  | _ => exact absurd some (by simp [elements?])

namespace Selector

theorem labelsOfDocument_failsOnly (document : Json) :
    FailsOnlyWith Fault.IsForm (labelsOfDocument document) := by
  unfold labelsOfDocument
  split
  · exact .ok _
  · split
    · exact .ok _
    · exact .error (Fault.isForm _)

/-- The labels of a selector are absent or an object. -/
def NamesLabels (members : Json.Members) : Prop :=
  (Json.member "matchLabels" members).isBlank = true
    ∨ (Json.member "matchLabels" members).isObject = true

theorem namesLabels_iff {members : Json.Members} :
    NamesLabels members ↔
      ∃ labels, labelsOfDocument (Json.member "matchLabels" members) = .ok labels := by
  unfold NamesLabels labelsOfDocument
  cases blank : (Json.member "matchLabels" members).isBlank with
  | true => simp
  | false => cases Json.member "matchLabels" members <;> simp [Json.isObject]

theorem requirementOfDocument_eq_error_iff {document : Json} {fault : Fault} :
    requirementOfDocument document = .error fault ↔
      (∃ members, document = .object members ∧ (Json.member "values" members).IsItemless
        ∧ fault = .kind .noItems)
      ∨ (document.isObject = false ∧ fault = .form (.requirementNotNamed document)) := by
  cases document with
  | object members =>
    rw [requirementOfDocument, bind_eq_error_iff, Json.elementsOrNone_eq_error_iff]
    simp [Json.isObject, pure, Except.pure]
  | _ => simp [requirementOfDocument, Json.isObject, eq_comm]

/-- What stands for the expressions of a selector has no items, or the values of an expression have
none, and nothing before it is at fault. -/
inductive BreaksOff : Json → Prop
  | expressions {members : Json.Members} (labels : NamesLabels members)
      (itemless : (Json.member "matchExpressions" members).IsItemless) : BreaksOff (.object members)
  | values {members expression : Json.Members} {before after : List Json} (labels : NamesLabels members)
      (listed : Json.member "matchExpressions" members = .list (before ++ .object expression :: after))
      (earlier : ∀ other ∈ before,
        ∃ members, other = .object members ∧ ¬(Json.member "values" members).IsItemless)
      (itemless : (Json.member "values" expression).IsItemless) : BreaksOff (.object members)

theorem exists_requirement_iff {document : Json} :
    (∃ requirement, requirementOfDocument document = .ok requirement) ↔
      ∃ members, document = .object members ∧ ¬(Json.member "values" members).IsItemless := by
  cases outcome : requirementOfDocument document with
  | ok requirement =>
    cases document with
    | object members =>
      have values : ¬(Json.member "values" members).IsItemless := by
        intro itemless
        rw [requirementOfDocument_eq_error_iff.mpr (Or.inl ⟨members, rfl, itemless, rfl⟩)] at outcome
        exact absurd outcome (by simp)
      exact iff_of_true ⟨requirement, rfl⟩ ⟨members, rfl, values⟩
    | _ => exact absurd outcome (by simp [requirementOfDocument])
  | error fault =>
    refine iff_of_false (by simp) ?_
    rintro ⟨members, rfl, values⟩
    rcases requirementOfDocument_eq_error_iff.mp outcome with ⟨_, same, itemless, _⟩ | ⟨noObject, _⟩
    · rw [Json.object.inj same] at values
      exact values itemless
    · exact absurd noObject (by simp [Json.isObject])

theorem ofDocument_of_labels {members : Json.Members} {labels : List (Text × Text)}
    (named : labelsOfDocument (Json.member "matchLabels" members) = .ok labels) :
    ofDocument (.object members) = do
      let expressions ← (Json.member "matchExpressions" members).elementsOrNone
      let requirements ← expressions.mapM requirementOfDocument
      return some ⟨labels, requirements⟩ := by
  rw [ofDocument, named]
  rfl

theorem BreaksOff.ofDocument_eq {document : Json} (breaksOff : BreaksOff document) :
    ofDocument document = .error (.kind .noItems) := by
  cases breaksOff with
  | expressions names itemless =>
    obtain ⟨labels, named⟩ := namesLabels_iff.mp names
    rw [ofDocument_of_labels named]
    exact bind_eq_error_iff.mpr (Or.inl (Json.elementsOrNone_eq_error_iff.mpr ⟨itemless, rfl⟩))
  | values names listed earlier itemless =>
    obtain ⟨labels, named⟩ := namesLabels_iff.mp names
    rw [ofDocument_of_labels named, listed]
    refine bind_eq_error_iff.mpr (Or.inr ⟨_, Json.elementsOrNone_of_elements? rfl, ?_⟩)
    refine bind_eq_error_iff.mpr (Or.inl (mapM_of_first_error ?_ ?_ _))
    · exact fun other member => exists_requirement_iff.mpr (earlier other member)
    · exact requirementOfDocument_eq_error_iff.mpr (Or.inl ⟨_, rfl, itemless, rfl⟩)

theorem ofDocument_failsOnly (document : Json) :
    FailsOnlyWith (fun fault => fault.IsForm ∨ BreaksOff document) (ofDocument document) := by
  cases document with
  | null => exact .ok _
  | object members =>
    rw [ofDocument]
    refine .bind ((labelsOfDocument_failsOnly _).mono fun _ => Or.inl) ?_
    intro labels named
    have names : NamesLabels members := namesLabels_iff.mpr ⟨labels, named⟩
    refine .bind (fun fault failure => Or.inr ?_) fun expressions gone =>
      .bind (fun fault failure => ?_) fun _ _ => .ok _
    · exact .expressions names (Json.elementsOrNone_eq_error_iff.mp failure).1
    · obtain ⟨before, item, after, rfl, fine, failed⟩ := exists_first_error failure
      rcases requirementOfDocument_eq_error_iff.mp failed with
        ⟨expression, rfl, itemless, _⟩ | ⟨_, rfl⟩
      · have listed := @Json.eq_list_of_object_mem _ _ expression gone (by simp)
        exact Or.inr (.values names listed
          (fun other member => exists_requirement_iff.mp (fine other member)) itemless)
      · exact Or.inl (Fault.isForm _)
  | _ => exact .error (Or.inl (Fault.isForm _))

end Selector

namespace Planner

/-- The words name a file of nodes that is there, with these bytes. -/
structure NamesNodes (files : Files) (words : List Text) (arguments : Arguments) (path : Text)
    (bytes : Utf8.Bytes) : Prop where
  parsed : parse words = .ok (.plan arguments)
  named : ∃ given, arguments.nodes = some given ∧ Path.normal files.homes given = .ok path
  there : files.has path = .ok true
  found : files.bytesAt path = .ok bytes

section

variable {host : Host} {files : Files} {words : List Text} {arguments : Arguments} {path : Text}
  {bytes : Utf8.Bytes} {room : Nat}

theorem isInvalidInput_document {fault : Json.ReadFault} (shallow : fault ≠ .tooDeep) :
    (Fault.document fault).isInvalidInput = true := by
  cases fault with
  | tooDeep => exact absurd rfl shallow
  | _ => rfl

theorem readDocument_failsOnly (found : files.bytesAt path = .ok bytes)
    (shallow : files.readDocument room path ≠ .error (.document .tooDeep)) :
    FailsOnlyWith (·.isInvalidInput = true) (files.readDocument room path) := by
  unfold Files.readDocument at shallow ⊢
  rw [Files.readText_of_bytesAt found] at shallow ⊢
  cases decoded : Utf8.decode bytes with
  | error fault => exact .error rfl
  | ok text =>
    rw [decoded] at shallow
    refine .bind (.ok _) fun lines same => ?_
    obtain rfl := Except.ok.inj same
    cases read : Json.read room text.withLineFeeds with
    | ok document => exact .ok _
    | error fault =>
      refine .error (isInvalidInput_document ?_)
      rintro rfl
      exact shallow (congrArg (·.mapError Fault.document) read)

def Exit.IsInvalidInput (exit : Exit) : Prop :=
  ∃ fault : Fault, fault.isInvalidInput = true ∧ exit = .message ("Invalid input: " ++ fault.message)

theorem readInput_failsOnly (names : NamesNodes files words arguments path bytes)
    (shallowNodes : files.readDocument host.nodesRoom path ≠ .error (.document .tooDeep))
    (shallowSelector : Json.read host.selectorRoom arguments.selector ≠ .error .tooDeep)
    (goesOn : ∀ document, Json.read host.selectorRoom arguments.selector = .ok document →
      ¬Selector.BreaksOff document) :
    FailsOnlyWith Exit.IsInvalidInput (readInput host files arguments) := by
  obtain ⟨given, named, normal⟩ := names.named
  have reported (fault : Fault) (invalid : fault.isInvalidInput = true) :
      Exit.IsInvalidInput (if fault.isInvalidInput then .message ("Invalid input: " ++ fault.message)
        else .fault fault) := ⟨fault, invalid, if_pos invalid⟩
  have nodes : FailsOnlyWith (·.isInvalidInput = true)
      ((files.readDocument host.nodesRoom path).bind Node.listOfDocument) :=
    .bind (readDocument_failsOnly names.found shallowNodes) fun document _ =>
      (Node.listOfDocument_failsOnly document).mono fun _ => Fault.IsForm.isInvalidInput
  have read : FailsOnlyWith (· ≠ .tooDeep) (Json.read host.selectorRoom arguments.selector) := by
    rintro fault failure rfl
    exact shallowSelector failure
  unfold readInput
  simp only [named, normal, mapError_ok]
  refine .bind (.ok path) fun found same => ?_
  obtain rfl := Except.ok.inj same
  rw [names.there]
  refine .bind (.ok true) fun there same => ?_
  obtain rfl := Except.ok.inj same
  refine .bind (nodes.mapError reported) fun listed _ => ?_
  split
  · exact .ok _
  refine .bind ?_ fun document same => ?_
  · exact (read.mapError fun _ => isInvalidInput_document).mapError reported
  have given := mapError_eq_ok_iff.mp (mapError_eq_ok_iff.mp same)
  refine .bind (.mapError (Selector.ofDocument_failsOnly document) fun fault fails => ?_) fun _ _ =>
    .ok _
  exact reported fault (fails.resolve_right (goesOn document given)).isInvalidInput

end

/-- A malformed node list is reported as such, and so is a malformed selector unless it breaks off. A
run of the planner on a file of nodes and a selector of which neither is nested too deeply and the
selector does not break off reads both, or ends with a message and has done nothing else. -/
theorem malformed_reported_unless_breaksOff (document : Json) (host : Host) (files : Files)
    (words : List Text) (arguments : Arguments) (path : Text) (bytes : Utf8.Bytes) :
    ((∃ nodes, Node.listOfDocument document = .ok nodes)
        ∨ ∃ form, Node.listOfDocument document = .error (.form form))
      ∧ (¬Selector.BreaksOff document →
        (∃ selector, Selector.ofDocument document = .ok selector)
          ∨ ∃ form, Selector.ofDocument document = .error (.form form))
      ∧ (Selector.BreaksOff document → Selector.ofDocument document = .error (.kind .noItems))
      ∧ (NamesNodes files words arguments path bytes →
        files.readDocument host.nodesRoom path ≠ .error (.document .tooDeep) →
        Json.read host.selectorRoom arguments.selector ≠ .error .tooDeep →
        (∀ given, Json.read host.selectorRoom arguments.selector = .ok given →
          ¬Selector.BreaksOff given) →
        (∃ input, readInput host files arguments = .ok input)
          ∨ ∃ fault : Fault, fault.isInvalidInput = true ∧ run host files words =
            (start files).exiting (.message ("Invalid input: " ++ fault.message))) := by
  refine ⟨?_, fun goesOn => ?_, Selector.BreaksOff.ofDocument_eq, ?_⟩
  · rcases (Node.listOfDocument_failsOnly document).cases with read | ⟨_, ⟨form, rfl⟩, failed⟩
    · exact Or.inl read
    · exact Or.inr ⟨form, failed⟩
  · rcases (Selector.ofDocument_failsOnly document).cases with read | ⟨fault, fails, failed⟩
    · exact Or.inl read
    · obtain ⟨form, rfl⟩ := fails.resolve_right goesOn
      exact Or.inr ⟨form, failed⟩
  · intro names shallowNodes shallowSelector goesOn
    rcases (readInput_failsOnly names shallowNodes shallowSelector goesOn).cases with
      read | ⟨_, ⟨fault, invalid, rfl⟩, failed⟩
    · exact Or.inl read
    · refine Or.inr ⟨fault, invalid, ?_⟩
      simp only [run, names.parsed, plan, failed]

def numberOfExpressions : Json := .object [("matchExpressions", .int 5)]

theorem breaksOff_numberOfExpressions : Selector.BreaksOff numberOfExpressions :=
  .expressions (Or.inl rfl) (show (5 : Int) ≠ 0 by decide)

/-- A number in the place of the expressions is not reported as a fault of form. -/
theorem not_every_malformed_selector_reported :
    ¬∀ document, (∃ selector, Selector.ofDocument document = .ok selector)
      ∨ ∃ form, Selector.ofDocument document = .error (.form form) := by
  intro reported
  have unreported := breaksOff_numberOfExpressions.ofDocument_eq
  rcases reported numberOfExpressions with ⟨selector, read⟩ | ⟨form, failed⟩
  · exact absurd (unreported.symm.trans read) (by simp)
  · exact absurd (unreported.symm.trans failed) (by simp)

/-! A list in the place of a selector. -/

def noNodes : Files := { Files.empty with
  contents := Files.empty.contents.put "nodes.json" (Utf8.encode "[]") }

def listWords : List Text := ["--nodes", "nodes.json", "--selector", "[]"]

def listArguments : Arguments where
  nodes := some ("nodes.json" : Text)
  status := some Config.standardStatusPath
  selector := "[]"
  flexibleScaling := false
  arbiter := false
  minimumNodes := some ClusterSpec.standardMinimum
  minimumRacks := some ClusterSpec.standardMinimum
  write := false

theorem namesNodes_noNodes :
    NamesNodes noNodes listWords listArguments "nodes.json" (Utf8.encode "[]") where
  parsed := rfl
  named := ⟨"nodes.json", rfl, rfl⟩
  there := rfl
  found := rfl

theorem list_reported_and_number_not :
    (∃ form, Selector.ofDocument (.list []) = .error (.form form))
      ∧ Selector.ofDocument numberOfExpressions = .error (.kind .noItems)
      ∧ ∃ fault : Fault, fault.isInvalidInput = true ∧ run .standard noNodes listWords =
        (start noNodes).exiting (.message ("Invalid input: " ++ fault.message)) := by
  have selector : Json.read Host.standard.selectorRoom listArguments.selector = .ok (.list []) := by
    rfl
  have nodes : noNodes.readDocument Host.standard.nodesRoom "nodes.json" = .ok (.list []) := by rfl
  have stopped : (readInput .standard noNodes listArguments).toOption.isNone = true := by decide +kernel
  have goesOn : ¬Selector.BreaksOff (.list []) := nofun
  obtain ⟨_, form, _, planned⟩ := malformed_reported_unless_breaksOff (.list []) .standard noNodes
    listWords listArguments "nodes.json" (Utf8.encode "[]")
  obtain ⟨_, _, unreported, _⟩ := malformed_reported_unless_breaksOff numberOfExpressions
    .standard noNodes listWords listArguments "nodes.json" (Utf8.encode "[]")
  refine ⟨(form goesOn).resolve_left ?_, unreported breaksOff_numberOfExpressions, ?_⟩
  · rintro ⟨selector, read⟩
    exact absurd read (by simp [Selector.ofDocument])
  · have ends := planned namesNodes_noNodes (by rw [nodes]; simp) (by rw [selector]; simp)
      fun given read => by rwa [← Except.ok.inj (selector.symm.trans read)]
    refine ends.resolve_left ?_
    rintro ⟨input, read⟩
    exact absurd stopped (by rw [read]; simp)

end Planner
end ClusterTopology
