import ClusterTopology.Proofs.Config
import ClusterTopology.Proofs.Selector.Validity

/-!
Which nodes are eligible. A selector asks for labels with values and for what its operators say of the
values that are carried, and the eligible nodes are those whose labels have what is asked for. Only a
selector that does not pass the check has none, whatever the nodes.
-/

namespace ClusterTopology

def Operator.Admits (values : List Text) : Operator → Option Text → Prop
  | .oneOf, carried => ∃ value ∈ carried, value ∈ values
  | .noneOf, carried => ∀ value ∈ carried, value ∉ values
  | .present, carried => ∃ value, carried = some value
  | .missing, carried => carried = none
  | .unknown _, _ => False

instance (values : List Text) :
    (operator : Operator) → (carried : Option Text) → Decidable (operator.Admits values carried)
  | .oneOf, carried => inferInstanceAs (Decidable (∃ value ∈ carried, value ∈ values))
  | .noneOf, carried => inferInstanceAs (Decidable (∀ value ∈ carried, value ∉ values))
  | .present, some value => isTrue ⟨value, rfl⟩
  | .present, none => isFalse nofun
  | .missing, carried => inferInstanceAs (Decidable (carried = none))
  | .unknown _, _ => isFalse id

namespace Selector

def Asks (selector : Selector) (labels : Labels) : Prop :=
  (∀ label ∈ selector.labels, labels.find? label.1 = some label.2)
    ∧ ∀ requirement ∈ selector.requirements,
      requirement.operator.Admits requirement.values (labels.find? requirement.key)

instance (selector : Selector) (labels : Labels) : Decidable (selector.Asks labels) :=
  inferInstanceAs (Decidable (_ ∧ _))

def and (first second : Selector) : Selector :=
  ⟨first.labels ++ second.labels, first.requirements ++ second.requirements⟩

end Selector

theorem Requirement.holds_iff_admits {requirement : Requirement} {isValue : Text → Prop}
    (takes : requirement.TakesValues isValue) (labels : Labels) :
    requirement.holds labels = true ↔
      requirement.operator.Admits requirement.values (labels.find? requirement.key) := by
  obtain ⟨key, operator, values⟩ := requirement
  cases operator with
  | unknown given => exact absurd takes id
  | oneOf | noneOf | present | missing =>
    cases carried : labels.find? key <;> simp [holds, Operator.Admits, carried]

namespace Selector

variable {selector first second : Selector}

theorem selects_iff_asks (valid : selector.check = .ok ()) (labels : Labels) :
    selector.selects labels = true ↔ selector.Asks labels := by
  -- A valid selector has no unknown operator, which would be taken for `missing`.
  have forms := check_eq_ok_iff.mp valid
  rw [selects, Bool.and_eq_true, List.all_eq_true, List.all_eq_true]
  refine and_congr (by simp) (forall₂_congr fun requirement member => ?_)
  exact Requirement.holds_iff_admits (forms.requirements requirement member) labels

theorem asks_and_iff {labels : Labels} :
    (first.and second).Asks labels ↔ first.Asks labels ∧ second.Asks labels := by
  simp only [Asks, and, List.forall_mem_append]
  tauto

theorem check_and (valid : first.check = .ok ()) (alsoValid : second.check = .ok ()) :
    (first.and second).check = .ok () := by
  rw [check_eq_ok_iff_forall] at valid alsoValid ⊢
  exact ⟨List.forall_mem_append.mpr ⟨valid.1, alsoValid.1⟩,
    List.forall_mem_append.mpr ⟨valid.2, alsoValid.2⟩⟩

section

variable (sameLabels : first.labels.Perm second.labels)
  (sameRequirements : first.requirements.Perm second.requirements)

include sameLabels sameRequirements

theorem check_of_perm (valid : first.check = .ok ()) : second.check = .ok () := by
  rw [check_eq_ok_iff_forall] at valid ⊢
  exact ⟨fun label member => valid.1 label (sameLabels.mem_iff.mpr member),
    fun requirement member => valid.2 requirement (sameRequirements.mem_iff.mpr member)⟩

theorem asks_iff_of_perm (labels : Labels) : first.Asks labels ↔ second.Asks labels := by
  simp only [Asks, sameLabels.mem_iff, sameRequirements.mem_iff]

end

end Selector

namespace Node

/-- The nodes that a selector asks for, by name. Nodes of one name stand as often and in the order as
they are given. -/
structure AreEligible (selector : Selector) (nodes found : List Node) : Prop where
  sorted : found.Pairwise fun node later => ¬later.name < node.name
  exact : ∀ name, found.filter (fun node => node.name = name) =
    nodes.filter fun node => node.name = name ∧ selector.Asks node.labels

variable {selector first second : Selector} {nodes found others : List Node}

theorem areEligible_sortByName (selector : Selector) (nodes : List Node) :
    AreEligible selector nodes (sortByName (nodes.filter fun node => selector.Asks node.labels)) where
  sorted := sortByName_sorted _
  exact name := by
    rw [sortByName_filter_name, List.filter_filter]
    simp only [Bool.decide_and]

namespace AreEligible

theorem unique (eligible : AreEligible selector nodes found)
    (also : AreEligible selector nodes others) : found = others :=
  eq_of_sorted eligible.sorted also.sorted fun name => by rw [eligible.exact, also.exact]

theorem congr (same : ∀ labels, first.Asks labels ↔ second.Asks labels)
    (eligible : AreEligible first nodes found) : AreEligible second nodes found where
  sorted := eligible.sorted
  exact name := by
    rw [eligible.exact]
    simp only [same]

theorem mem_iff (eligible : AreEligible selector nodes found) {node : Node} :
    node ∈ found ↔ node ∈ nodes ∧ selector.Asks node.labels := by
  have named := congrArg (node ∈ ·) (eligible.exact node.name)
  simpa only [List.mem_filter, decide_true, and_true, decide_eq_true_eq, true_and,
    eq_iff_iff] using named

theorem filter (eligible : AreEligible first nodes found) (second : Selector) :
    AreEligible (first.and second) nodes (found.filter fun node => second.Asks node.labels) where
  sorted := eligible.sorted.filter _
  exact name := by
    rw [List.filter_filter]
    have kept := congrArg (List.filter fun node => second.Asks node.labels) (eligible.exact name)
    rw [List.filter_filter, List.filter_filter] at kept
    simpa only [Selector.asks_and_iff, Bool.decide_and, Bool.and_comm, Bool.and_assoc] using kept

end AreEligible

/-! What the program finds. -/

section

variable (nodes : List Node) (selector : Option Selector)

theorem eligible_eq_error_iff {fault : Fault} :
    eligible nodes selector = .error fault ↔
      ∃ bad, (selector.getD .standard).check = .error bad ∧ fault = .selector bad := by
  unfold eligible
  cases checked : (selector.getD .standard).check with
  | error bad => simp [checked, bind, Except.bind, eq_comm]
  | ok passed => simp [checked, bind, Except.bind, pure, Except.pure]

theorem exists_eligible_of_valid (valid : (selector.getD .standard).check = .ok ()) :
    ∃ found, eligible nodes selector = .ok found
      ∧ AreEligible (selector.getD .standard) nodes found := by
  have selected : (fun node : Node => (selector.getD .standard).selects node.labels) =
      fun node => decide ((selector.getD .standard).Asks node.labels) := by
    funext node
    rw [Bool.eq_iff_iff, decide_eq_true_eq, Selector.selects_iff_asks valid]
  refine ⟨_, ?_, areEligible_sortByName (selector.getD .standard) nodes⟩
  rw [eligible, ← selected]
  simp only [valid]
  rfl

end

/-- Eligible nodes are found just when the selector, or the standard one where there is none, is valid,
whatever the nodes. They are those that it asks for, each as often as it is given, by name and otherwise
in the order in which they are given. With two valid selectors together they are those with each of the
two, and they do not depend on the order of what a selector lists. -/
theorem eligible_are_those_asked_for (nodes : List Node) (selector : Option Selector) :
    let asked := selector.getD .standard
    (∀ fault, eligible nodes selector = .error fault ↔
        ∃ bad, asked.check = .error bad ∧ fault = .selector bad)
      ∧ (asked.check = .ok () → ∃ found, eligible nodes selector = .ok found
        ∧ (∀ others, AreEligible asked nodes others ↔ others = found)
        ∧ (∀ other : Selector, other.check = .ok () → (asked.and other).check = .ok ()
          ∧ ∃ forOther both, eligible nodes (some other) = .ok forOther
            ∧ eligible nodes (some (asked.and other)) = .ok both
            ∧ both = found.filter (fun node => other.Asks node.labels)
            ∧ both = forOther.filter (fun node => asked.Asks node.labels)
            ∧ ∀ node, node ∈ both ↔ node ∈ found ∧ node ∈ forOther)
        ∧ ∀ other : Selector, asked.labels.Perm other.labels →
          asked.requirements.Perm other.requirements → eligible nodes (some other) = .ok found) := by
  intro asked
  refine ⟨fun fault => eligible_eq_error_iff nodes selector, fun valid => ?_⟩
  obtain ⟨found, selected, eligibleNodes⟩ := exists_eligible_of_valid nodes selector valid
  refine ⟨found, selected, fun others => ⟨fun also => also.unique eligibleNodes, ?_⟩,
    fun other alsoValid => ?_, fun other sameLabels sameRequirements => ?_⟩
  · rintro rfl
    exact eligibleNodes
  · have bothValid := Selector.check_and valid alsoValid
    obtain ⟨forOther, selectedOther, eligibleOther⟩ :=
      exists_eligible_of_valid nodes (some other) alsoValid
    obtain ⟨both, selectedBoth, eligibleBoth⟩ :=
      exists_eligible_of_valid nodes (some (asked.and other)) bothValid
    have swapped := (eligibleOther.filter asked).congr fun labels =>
      (Selector.asks_and_iff.trans and_comm).trans Selector.asks_and_iff.symm
    refine ⟨bothValid, forOther, both, selectedOther, selectedBoth,
      eligibleBoth.unique (eligibleNodes.filter other), eligibleBoth.unique swapped, fun node => ?_⟩
    rw [eligibleBoth.mem_iff, eligibleNodes.mem_iff, eligibleOther.mem_iff]
    change _ ∧ (asked.and other).Asks node.labels ↔ _
    rw [Selector.asks_and_iff]
    exact and_and_left
  · have sameAsked := Selector.asks_iff_of_perm sameLabels sameRequirements
    obtain ⟨others, selectedOthers, eligibleOthers⟩ :=
      exists_eligible_of_valid nodes (some other)
        (Selector.check_of_perm sameLabels sameRequirements valid)
    rw [selectedOthers, eligibleOthers.unique (eligibleNodes.congr sameAsked)]

/-! Nodes of which two have the same name, and one has an empty label. -/

def emptyTier : Node := ⟨"n1", .ofList [("tier", "")]⟩

def tiers : List Node :=
  [⟨"n2", .ofList [("tier", "storage")]⟩, emptyTier, ⟨"n1", .empty⟩, ⟨"n0", .ofList [("tier", "web")]⟩]

def outsideWeb : Selector := ⟨[], [⟨"tier", .noneOf, ["web"]⟩]⟩

def withTier : Selector := ⟨[], [⟨"tier", .present, []⟩]⟩

theorem empty_tier_eligible :
    outsideWeb.check = .ok () ∧ withTier.check = .ok ()
      ∧ ∃ found both, eligible tiers (some outsideWeb) = .ok found
        ∧ found.filter (fun node => node.name = ("n1" : Text)) = [emptyTier, ⟨"n1", .empty⟩]
        ∧ eligible tiers (some (outsideWeb.and withTier)) = .ok both
        ∧ both.filter (fun node => node.name = ("n1" : Text)) = [emptyTier] := by
  have valid : outsideWeb.check = .ok () := by rfl
  have alsoValid : withTier.check = .ok () := by rfl
  obtain ⟨_, eligibleFor⟩ := eligible_are_those_asked_for tiers (some outsideWeb)
  obtain ⟨found, selected, only, together, _⟩ := eligibleFor valid
  obtain ⟨_, _, both, _, selectedBoth, kept, _⟩ := together withTier alsoValid
  have eligibleNodes : AreEligible outsideWeb tiers found := (only found).mpr rfl
  refine ⟨valid, alsoValid, found, both, selected, ?_, selectedBoth, ?_⟩
  · rw [eligibleNodes.exact]
    rfl
  · have eligibleBoth := eligibleNodes.filter withTier
    rw [kept]
    refine (eligibleBoth.exact "n1").trans ?_
    rfl

end Node
end ClusterTopology
