import ClusterTopology.Proofs.Outcome
import ClusterTopology.Proofs.Selector.Languages

/-!
Which selectors are valid. A key is a name, or a domain and a name with a slash between them, and
values have the form of names or are empty. A selector passes the check just when its keys and values
have these forms and its operators take the values that are given, but that one line feed at the end
of a name, a domain or a value is passed over.
-/

namespace ClusterTopology

namespace Label

structure Forms where
  name : Text → Prop
  domain : Text → Prop
  value : Text → Prop

abbrev slash : CodePoint := '/'

/-- A key is a name, or a domain and a name with a slash between them. -/
def Forms.IsKey (forms : Forms) (key : Text) : Prop :=
  (slash ∉ key ∧ forms.name key)
    ∨ ∃ domain name, key = domain ++ slash :: name ∧ slash ∉ domain ∧ slash ∉ name
      ∧ forms.domain domain ∧ forms.name name

/-- A name has up to 63 letters, digits, hyphens, underscores and dots, and begins and ends with a
letter or a digit. -/
structure IsWrittenName (t : Text) : Prop where
  length : t.length ≤ 63
  bounded : Bounded isInName CodePoint.isAlphanumeric t

/-- A domain has up to 253 code points. Between its dots stand lower-case letters, digits and
hyphens, and each part begins and ends with a letter or a digit. -/
structure IsWrittenDomain (t : Text) : Prop where
  length : t.length ≤ 253
  parts : ∃ parts, parts ≠ [] ∧ t = Text.joined [dot] parts ∧ ∀ part ∈ parts,
    Bounded isInDomainPart CodePoint.isLowerAlphanumeric part

def Forms.written : Forms where
  name := IsWrittenName
  domain := IsWrittenDomain
  value t := t = [] ∨ IsWrittenName t

/-- The forms that pass: a line feed at the end is passed over, and counts for the length. -/
def Forms.passing : Forms where
  name t := t.length ≤ 63 ∧ t ∈ orLineEnd names
  domain t := t.length ≤ 253 ∧ t ∈ orLineEnd domains
  value t := t.length ≤ 63 ∧ t ∈ orLineEnd values

end Label

open Label

def Requirement.TakesValues (requirement : Requirement) (isValue : Text → Prop) : Prop :=
  match requirement.operator with
  | .oneOf | .noneOf => requirement.values ≠ [] ∧ ∀ value ∈ requirement.values, isValue value
  | .present | .missing => requirement.values = []
  | .unknown _ => False

namespace Selector

def keys (selector : Selector) : List Text :=
  selector.labels.map Prod.fst ++ selector.requirements.map Requirement.key

def values (selector : Selector) : List Text :=
  selector.labels.map Prod.snd ++ selector.requirements.flatMap Requirement.values

/-- All keys and values of a selector have the forms, and its operators take their values. -/
structure HasForms (forms : Forms) (selector : Selector) : Prop where
  keys : ∀ key ∈ selector.keys, forms.IsKey key
  labelValues : ∀ label ∈ selector.labels, forms.value label.2
  requirements : ∀ requirement ∈ selector.requirements, requirement.TakesValues forms.value

/-! What passes the check. -/

theorem passing_name_iff {name : Text} :
    Forms.passing.name name ↔ (name.isEmpty || 63 < name.length || !isName name) = false := by
  have named : isName name = true ↔ name ∈ orLineEnd names := isName_iff
  have empty : isName [] = false := by decide
  cases name with
  | nil => simp [Forms.passing, ← named, empty]
  | cons c name => simp [Forms.passing, ← named]

theorem passing_domain_iff {domain : Text} :
    Forms.passing.domain domain ↔
      (domain.isEmpty || 253 < domain.length || !isDomain domain) = false := by
  have isOne : isDomain domain = true ↔ domain ∈ orLineEnd domains := isDomain_iff
  have empty : isDomain [] = false := by decide
  cases domain with
  | nil => simp [Forms.passing, ← isOne, empty]
  | cons c domain => simp [Forms.passing, ← isOne]

theorem slash_not_mem_of_passing_domain {domain : Text} (passing : Forms.passing.domain domain) :
    slash ∉ domain := by
  obtain ⟨front, isOne, _, ended, rfl⟩ := Language.mem_mul.mp passing.2
  intro member
  rcases List.mem_append.mp member with inside | behind
  · exact absurd (isInDomainPart_or_dot_of_mem_domains isOne slash inside) (by decide)
  · rcases ended with rfl | ⟨c, isEnd, rfl⟩
    · exact absurd behind (by simp)
    · obtain rfl := List.mem_singleton.mp behind
      exact absurd isEnd (by decide)

theorem checkKey_of_splitLast {domain name : Text}
    (split : Text.splitLast slash (domain ++ slash :: name) = some (domain, name)) :
    checkKey (domain ++ slash :: name) = .ok () ↔
      Forms.passing.name name ∧ Forms.passing.domain domain := by
  unfold checkKey
  rw [split, passing_name_iff, passing_domain_iff]
  dsimp only
  cases name.isEmpty || 63 < name.length || !isName name <;>
    cases domain.isEmpty || 253 < domain.length || !isDomain domain <;> simp

theorem checkKey_eq_ok_iff {key : Text} : checkKey key = .ok () ↔ Forms.passing.IsKey key := by
  unfold Forms.IsKey
  cases split : Text.splitLast slash key with
  | none =>
    have absent : slash ∉ key := Text.splitLast_eq_none_iff.mp split
    have whole : ∀ domain name, key ≠ domain ++ slash :: name := by
      rintro domain name rfl
      exact absent (by simp)
    simp [checkKey, split, absent, whole, passing_name_iff]
  | some parts =>
    obtain ⟨domain, name⟩ := parts
    obtain ⟨rfl, absent⟩ := Text.splitLast_eq_some_iff.mp split
    rw [checkKey_of_splitLast split]
    constructor
    · rintro ⟨named, isOne⟩
      exact Or.inr ⟨domain, name, rfl, slash_not_mem_of_passing_domain isOne, absent, isOne, named⟩
    · rintro (⟨nowhere, _⟩ | ⟨front, back, same, _, last, isOne, named⟩)
      · exact absurd (by simp) nowhere
      · -- The last slash is in one place only.
        have found := Text.splitLast_eq_some_iff.mpr ⟨same, last⟩
        obtain ⟨rfl, rfl⟩ := Prod.mk.inj (Option.some.inj (split.symm.trans found))
        exact ⟨named, isOne⟩

theorem checkValue_eq_ok_iff {key value : Text} :
    checkValue key value = .ok () ↔ Forms.passing.value value := by
  have isOne : isValue value = true ↔ value ∈ orLineEnd Label.values := isValue_iff
  simp [checkValue, Forms.passing, ← isOne]

theorem checkValues_eq_ok_iff {key : Text} {values : List Text} :
    checkValues key values = .ok () ↔ ∀ value ∈ values, Forms.passing.value value := by
  induction values with
  | nil => simp [checkValues]
  | cons value values ih =>
    rw [checkValues, then_eq_ok_iff, checkValue_eq_ok_iff, ih, List.forall_mem_cons]

theorem checkLabels_eq_ok_iff {labels : List (Text × Text)} :
    checkLabels labels = .ok () ↔
      ∀ label ∈ labels, Forms.passing.IsKey label.1 ∧ Forms.passing.value label.2 := by
  induction labels with
  | nil => simp [checkLabels]
  | cons label labels ih =>
    rw [checkLabels, then_eq_ok_iff, then_eq_ok_iff, checkKey_eq_ok_iff, checkValue_eq_ok_iff, ih,
      List.forall_mem_cons, and_assoc]

theorem checkRequirement_eq_ok_iff {requirement : Requirement} :
    checkRequirement requirement = .ok () ↔
      Forms.passing.IsKey requirement.key ∧ requirement.TakesValues Forms.passing.value := by
  rw [checkRequirement, then_eq_ok_iff, checkKey_eq_ok_iff, Requirement.TakesValues]
  refine and_congr_right fun _ => ?_
  rw [← @checkValues_eq_ok_iff requirement.key]
  cases requirement.operator <;> cases requirement.values <;> simp

theorem checkRequirements_eq_ok_iff {requirements : List Requirement} :
    checkRequirements requirements = .ok () ↔ ∀ requirement ∈ requirements,
      Forms.passing.IsKey requirement.key ∧ requirement.TakesValues Forms.passing.value := by
  induction requirements with
  | nil => simp [checkRequirements]
  | cons requirement requirements ih =>
    rw [checkRequirements, then_eq_ok_iff, checkRequirement_eq_ok_iff, ih, List.forall_mem_cons]

theorem check_eq_ok_iff_forall {selector : Selector} :
    selector.check = .ok () ↔
      (∀ label ∈ selector.labels, Forms.passing.IsKey label.1 ∧ Forms.passing.value label.2)
        ∧ ∀ requirement ∈ selector.requirements,
          Forms.passing.IsKey requirement.key ∧ requirement.TakesValues Forms.passing.value := by
  rw [check, then_eq_ok_iff, checkLabels_eq_ok_iff, checkRequirements_eq_ok_iff]

theorem check_eq_ok_iff {selector : Selector} :
    selector.check = .ok () ↔ selector.HasForms Forms.passing := by
  rw [check_eq_ok_iff_forall]
  constructor
  · rintro ⟨labels, requirements⟩
    refine ⟨fun key listed => ?_, fun label member => (labels label member).2,
      fun requirement member => (requirements requirement member).2⟩
    rcases List.mem_append.mp listed with ofLabel | ofRequirement
    · obtain ⟨label, member, rfl⟩ := List.mem_map.mp ofLabel
      exact (labels label member).1
    · obtain ⟨requirement, member, rfl⟩ := List.mem_map.mp ofRequirement
      exact (requirements requirement member).1
  · rintro ⟨keys, labelValues, requirements⟩
    refine ⟨fun label member => ⟨keys _ ?_, labelValues label member⟩,
      fun requirement member => ⟨keys _ ?_, requirements requirement member⟩⟩
    · exact List.mem_append_left _ (List.mem_map_of_mem member)
    · exact List.mem_append_right _ (List.mem_map_of_mem member)

/-! What has the forms that keys and values should have. -/

/-- No name, domain or value of a selector ends in a line feed. -/
structure Unended (selector : Selector) : Prop where
  keys : ∀ key ∈ selector.keys, key.getLast? ≠ some lineFeed
  domains : ∀ key ∈ selector.keys, ∀ domain name, key = domain ++ slash :: name →
    domain.getLast? ≠ some lineFeed
  values : ∀ value ∈ selector.values, value.getLast? ≠ some lineFeed

section

variable {t : Text}

theorem written_name_iff :
    Forms.written.name t ↔ Forms.passing.name t ∧ t.getLast? ≠ some lineFeed := by
  constructor
  · rintro ⟨length, bounded⟩
    have named : t ∈ names := mem_names_iff.mpr bounded
    have unended := getLast?_ne_lineFeed_of_mem_names named
    exact ⟨⟨length, (mem_orLineEnd_iff_of_unended unended).mpr named⟩, unended⟩
  · rintro ⟨⟨length, passing⟩, unended⟩
    exact ⟨length, mem_names_iff.mp ((mem_orLineEnd_iff_of_unended unended).mp passing)⟩

theorem written_domain_iff :
    Forms.written.domain t ↔ Forms.passing.domain t ∧ t.getLast? ≠ some lineFeed := by
  constructor
  · rintro ⟨length, parts⟩
    have isOne : t ∈ domains := mem_domains_iff.mpr parts
    have unended := getLast?_ne_lineFeed_of_mem_domains isOne
    exact ⟨⟨length, (mem_orLineEnd_iff_of_unended unended).mpr isOne⟩, unended⟩
  · rintro ⟨⟨length, passing⟩, unended⟩
    exact ⟨length, mem_domains_iff.mp ((mem_orLineEnd_iff_of_unended unended).mp passing)⟩

theorem written_value_iff :
    Forms.written.value t ↔ Forms.passing.value t ∧ t.getLast? ≠ some lineFeed := by
  constructor
  · rintro (rfl | ⟨length, bounded⟩)
    · exact ⟨⟨by simp, [], Or.inl rfl, [], Or.inl rfl, rfl⟩, by simp⟩
    · have isOne : t ∈ Label.values := Or.inr (mem_names_iff.mpr bounded)
      have unended := getLast?_ne_lineFeed_of_mem_values isOne
      exact ⟨⟨length, (mem_orLineEnd_iff_of_unended unended).mpr isOne⟩, unended⟩
  · rintro ⟨⟨length, passing⟩, unended⟩
    rcases (mem_orLineEnd_iff_of_unended unended).mp passing with empty | named
    · exact Or.inl empty
    · exact Or.inr ⟨length, mem_names_iff.mp named⟩

theorem getLast?_key (domain name : Text) :
    (domain ++ slash :: name).getLast? = some lineFeed ↔ name.getLast? = some lineFeed := by
  have different : slash ≠ lineFeed := by decide
  rcases List.eq_nil_or_concat name with rfl | ⟨front, c, rfl⟩
  · simp [different]
  · simp [List.getLast?_append, List.getLast?_cons]

theorem written_isKey_iff {key : Text} :
    Forms.written.IsKey key ↔ Forms.passing.IsKey key ∧ key.getLast? ≠ some lineFeed
      ∧ ∀ domain name, key = domain ++ slash :: name → domain.getLast? ≠ some lineFeed := by
  unfold Forms.IsKey
  simp only [written_name_iff, written_domain_iff]
  constructor
  · rintro (⟨absent, named, unended⟩ | ⟨domain, name, rfl, before, after, isOne, named⟩)
    · refine ⟨Or.inl ⟨absent, named⟩, unended, ?_⟩
      rintro domain name rfl
      exact absurd (by simp) absent
    · refine ⟨Or.inr ⟨domain, name, rfl, before, after, isOne.1, named.1⟩, ?_, ?_⟩
      · rw [Ne, getLast?_key]
        exact named.2
      · intro other rest same
        obtain ⟨rfl, _⟩ := (List.append_cons_inj_of_notMem before after).mp same
        exact isOne.2
  · rintro ⟨⟨absent, named⟩ | ⟨domain, name, rfl, before, after, isOne, named⟩, unended, domains⟩
    · exact Or.inl ⟨absent, named, unended⟩
    · rw [Ne, getLast?_key] at unended
      exact Or.inr ⟨domain, name, rfl, before, after, ⟨isOne, domains domain name rfl⟩, named, unended⟩

theorem takesValues_written_iff {requirement : Requirement} :
    requirement.TakesValues Forms.written.value ↔ requirement.TakesValues Forms.passing.value
      ∧ ∀ value ∈ requirement.values, value.getLast? ≠ some lineFeed := by
  unfold Requirement.TakesValues
  simp only [written_value_iff]
  cases requirement.operator with
  | oneOf | noneOf => simp only [forall_and, and_assoc]
  | present | missing => exact ⟨fun none => ⟨none, by simp [none]⟩, And.left⟩
  | unknown given => simp

theorem hasForms_written_iff {selector : Selector} :
    selector.HasForms Forms.written ↔ selector.HasForms Forms.passing ∧ selector.Unended := by
  constructor
  · rintro ⟨keys, labelValues, requirements⟩
    have unendedValues : ∀ value ∈ selector.values, value.getLast? ≠ some lineFeed := by
      intro value listed
      rcases List.mem_append.mp listed with ofLabel | ofRequirement
      · obtain ⟨label, member, rfl⟩ := List.mem_map.mp ofLabel
        exact (written_value_iff.mp (labelValues label member)).2
      · obtain ⟨requirement, member, among⟩ := List.mem_flatMap.mp ofRequirement
        exact (takesValues_written_iff.mp (requirements requirement member)).2 value among
    refine ⟨⟨fun key listed => ?_, fun label member => ?_, fun requirement member => ?_⟩,
      fun key listed => ?_, fun key listed => ?_, unendedValues⟩
    · exact (written_isKey_iff.mp (keys key listed)).1
    · exact (written_value_iff.mp (labelValues label member)).1
    · exact (takesValues_written_iff.mp (requirements requirement member)).1
    · exact (written_isKey_iff.mp (keys key listed)).2.1
    · exact (written_isKey_iff.mp (keys key listed)).2.2
  · rintro ⟨⟨keys, labelValues, requirements⟩, unendedKeys, unendedDomains, unendedValues⟩
    refine ⟨fun key listed => ?_, fun label member => ?_, fun requirement member => ?_⟩
    · exact written_isKey_iff.mpr
        ⟨keys key listed, unendedKeys key listed, unendedDomains key listed⟩
    · refine written_value_iff.mpr ⟨labelValues label member, unendedValues _ ?_⟩
      exact List.mem_append_left _ (List.mem_map_of_mem member)
    · refine takesValues_written_iff.mpr
        ⟨requirements requirement member, fun value among => unendedValues value ?_⟩
      exact List.mem_append_right _ (List.mem_flatMap.mpr ⟨requirement, member, among⟩)

end

/-- A selector passes just when its keys and values have the forms that pass, and has a fault
otherwise. It has the forms that it should have just when it passes and no name, domain or value of
it ends in a line feed. -/
theorem written_iff_passes_unended (selector : Selector) :
    ((selector.HasForms Forms.passing ∧ selector.check = .ok ())
        ∨ (¬selector.HasForms Forms.passing ∧ ∃ fault, selector.check = .error fault))
      ∧ (selector.HasForms Forms.written ↔ selector.check = .ok () ∧ selector.Unended) := by
  constructor
  · cases outcome : selector.check with
    | ok passed => exact Or.inl ⟨check_eq_ok_iff.mp outcome, rfl⟩
    | error fault =>
      refine Or.inr ⟨fun forms => ?_, fault, rfl⟩
      rw [check_eq_ok_iff.mpr forms] at outcome
      exact absurd outcome (by simp)
  · rw [check_eq_ok_iff, hasForms_written_iff]

/-- A line feed behind a key passes. -/
theorem not_only_written_selectors_pass :
    ¬∀ selector : Selector, selector.check = .ok () ↔ selector.HasForms Forms.written := by
  intro only
  have passed : Selector.check ⟨[("n\n", "v")], []⟩ = .ok () := by rfl
  have unended := (hasForms_written_iff.mp ((only _).mp passed)).2
  exact unended.keys "n\n" (by simp [Selector.keys]) (by decide)

end Selector
end ClusterTopology
