import ClusterTopology.Proofs.Text.Parts
import ClusterTopology.Selector.Grammar
import Mathlib.Computability.Language

/-!
Names, values and domains as regular languages. A text belongs to them just by its code points: by
those that may stand anywhere in it and those that may begin and end it. The checks of label keys and
values accept these languages, and behind each of their texts one line feed at the very end.
-/

namespace ClusterTopology.Label

open scoped Computability

abbrev dot : CodePoint := '.'

abbrev lineFeed : CodePoint := '\n'

def isInName (c : CodePoint) : Bool := c.isAlphanumeric || c = '-' || c = '_' || c = '.'

def isInDomainPart (c : CodePoint) : Bool := c.isLowerAlphanumeric || c = '-'

def oneOf (kind : CodePoint → Bool) : Language CodePoint := {t | ∃ c, kind c = true ∧ t = [c]}

/-- A last code point, which others may stand before, the first of them of the same kind. -/
def enclosed (inner outer : CodePoint → Bool) : Language CodePoint :=
  (1 + oneOf outer * (oneOf inner)∗) * oneOf outer

def names : Language CodePoint := enclosed isInName CodePoint.isAlphanumeric

def values : Language CodePoint := 1 + names

def domainParts : Language CodePoint :=
  oneOf CodePoint.isLowerAlphanumeric
    * (1 + (oneOf isInDomainPart)∗ * oneOf CodePoint.isLowerAlphanumeric)

def domains : Language CodePoint := domainParts * (oneOf (· = dot) * domainParts)∗

def orLineEnd (language : Language CodePoint) : Language CodePoint :=
  language * (1 + oneOf (· = lineFeed))

structure Bounded (inner outer : CodePoint → Bool) (t : Text) : Prop where
  inside : ∀ c ∈ t, inner c = true
  first : ∃ c rest, t = c :: rest ∧ outer c = true
  last : ∃ rest c, t = rest ++ [c] ∧ outer c = true

section

variable {inner outer kind : CodePoint → Bool} {t : Text}

theorem mem_kstar_oneOf_iff : t ∈ (oneOf kind)∗ ↔ ∀ c ∈ t, kind c = true := by
  rw [Language.mem_kstar]
  constructor
  · rintro ⟨points, rfl, single⟩ c member
    obtain ⟨point, listed, inPoint⟩ := List.mem_flatten.mp member
    obtain ⟨d, ofKind, rfl⟩ := single point listed
    rw [List.mem_singleton.mp inPoint]
    exact ofKind
  · intro ofKind
    have whole : t = (t.map fun c => [c]).flatten := by
      rw [← List.flatMap_def, List.flatMap_singleton']
    refine ⟨t.map fun c => [c], whole, fun point listed => ?_⟩
    obtain ⟨c, member, rfl⟩ := List.mem_map.mp listed
    exact ⟨c, ofKind c member, rfl⟩

theorem mem_enclosed_iff (among : ∀ c, outer c = true → inner c = true) :
    t ∈ enclosed inner outer ↔ Bounded inner outer t := by
  rw [enclosed, Language.mem_mul]
  constructor
  · rintro ⟨front, inFront, _, ⟨c, ends, rfl⟩, rfl⟩
    rcases (Language.mem_add _ _ _).mp inFront with rfl | more
    · exact ⟨by simpa using among c ends, ⟨c, [], rfl, ends⟩, ⟨[], c, rfl, ends⟩⟩
    · obtain ⟨_, ⟨d, begins, rfl⟩, middle, inMiddle, rfl⟩ := Language.mem_mul.mp more
      have ofKind := mem_kstar_oneOf_iff.mp inMiddle
      refine ⟨fun e member => ?_, ⟨d, middle ++ [c], by simp, begins⟩, ⟨d :: middle, c, by simp, ends⟩⟩
      rw [List.append_assoc, List.singleton_append, List.mem_cons, List.mem_append,
        List.mem_singleton] at member
      rcases member with rfl | inside | rfl
      · exact among e begins
      · exact ofKind e inside
      · exact among e ends
  · rintro ⟨inside, ⟨d, rest, begun, begins⟩, ⟨front, c, rfl, ends⟩⟩
    refine ⟨front, (Language.mem_add _ _ _).mpr ?_, [c], ⟨c, ends, rfl⟩, rfl⟩
    cases front with
    | nil => exact Or.inl rfl
    | cons e middle =>
      obtain ⟨rfl, _⟩ := List.cons.inj begun
      refine Or.inr (Language.mem_mul.mpr ⟨[e], ⟨e, begins, rfl⟩, middle, ?_, rfl⟩)
      exact mem_kstar_oneOf_iff.mpr fun point member => inside point (by simp [member])

theorem hasShape_iff : hasShape inner outer t = true ↔ Bounded inner outer t := by
  simp only [hasShape, Bool.and_eq_true, List.all_eq_true, Option.any_eq_true, List.head?_eq_some_iff,
    List.getLast?_eq_some_iff]
  constructor
  · rintro ⟨⟨inside, c, ⟨rest, begun⟩, begins⟩, d, ⟨front, ended⟩, ends⟩
    exact ⟨inside, ⟨c, rest, begun, begins⟩, ⟨front, d, ended, ends⟩⟩
  · rintro ⟨inside, ⟨c, rest, begun, begins⟩, ⟨front, d, ended, ends⟩⟩
    exact ⟨⟨inside, c, ⟨rest, begun⟩, begins⟩, d, ⟨front, ended⟩, ends⟩

end

theorem isAlphanumeric_isInName (c : CodePoint) (alphanumeric : c.isAlphanumeric = true) :
    isInName c = true := by
  simp [isInName, alphanumeric]

theorem isLowerAlphanumeric_isInDomainPart (c : CodePoint)
    (alphanumeric : c.isLowerAlphanumeric = true) : isInDomainPart c = true := by
  simp [isInDomainPart, alphanumeric]

theorem mem_names_iff {t : Text} : t ∈ names ↔ Bounded isInName CodePoint.isAlphanumeric t :=
  mem_enclosed_iff isAlphanumeric_isInName

theorem domainParts_eq_enclosed :
    domainParts = enclosed isInDomainPart CodePoint.isLowerAlphanumeric := by
  simp only [domainParts, enclosed, mul_add, add_mul, one_mul, mul_one, mul_assoc]

theorem mem_domainParts_iff {t : Text} :
    t ∈ domainParts ↔ Bounded isInDomainPart CodePoint.isLowerAlphanumeric t := by
  rw [domainParts_eq_enclosed, mem_enclosed_iff isLowerAlphanumeric_isInDomainPart]

theorem mem_domains_iff {t : Text} :
    t ∈ domains ↔ ∃ parts, parts ≠ [] ∧ t = Text.joined [dot] parts ∧ ∀ part ∈ parts,
      Bounded isInDomainPart CodePoint.isLowerAlphanumeric part := by
  rw [domains, Language.mem_mul]
  constructor
  · rintro ⟨part, isPart, _, later, rfl⟩
    obtain ⟨others, rfl, dotted⟩ := Language.mem_kstar.mp later
    have behindDot : ∀ other ∈ others, ∃ part ∈ domainParts, other = dot :: part := by
      intro other listed
      obtain ⟨_, ⟨dot, isDot, rfl⟩, part, isPart, rfl⟩ := Language.mem_mul.mp (dotted other listed)
      exact ⟨part, isPart, by simpa using isDot⟩
    have tails : (others.map List.tail).map (dot :: ·) = others := by
      rw [List.map_map]
      refine (List.map_congr_left fun other listed => ?_).trans (List.map_id others)
      obtain ⟨part, _, rfl⟩ := behindDot other listed
      rfl
    refine ⟨part :: others.map List.tail, by simp, ?_, ?_⟩
    · rw [Text.joined_cons, tails]
    · rw [List.forall_mem_cons]
      refine ⟨mem_domainParts_iff.mp isPart, fun tail listed => ?_⟩
      obtain ⟨other, member, rfl⟩ := List.mem_map.mp listed
      obtain ⟨part, isPart, rfl⟩ := behindDot other member
      exact mem_domainParts_iff.mp isPart
  · rintro ⟨parts, some, rfl, bounded⟩
    obtain ⟨part, parts, rfl⟩ := List.exists_cons_of_ne_nil some
    rw [List.forall_mem_cons] at bounded
    rw [Text.joined_cons]
    refine ⟨part, mem_domainParts_iff.mpr bounded.1, _, ?_, rfl⟩
    refine Language.join_mem_kstar fun other listed => ?_
    obtain ⟨tail, member, rfl⟩ := List.mem_map.mp listed
    exact Language.mem_mul.mpr
      ⟨[dot], ⟨dot, by simp, rfl⟩, tail, mem_domainParts_iff.mpr (bounded.2 tail member), rfl⟩

/-! What the checks accept. -/

theorem isWord_iff {t : Text} : isWord t = true ↔ t ∈ names := by
  rw [mem_names_iff, ← hasShape_iff]
  rfl

theorem not_mem_dot_of_bounded {part : Text}
    (bounded : Bounded isInDomainPart CodePoint.isLowerAlphanumeric part) : dot ∉ part := by
  intro member
  exact absurd (bounded.inside _ member) (by decide)

theorem all_isDomainPart_iff {t : Text} :
    (Text.splitAt dot t).all isDomainPart = true ↔ t ∈ domains := by
  have isPart (part : Text) : isDomainPart part = true ↔
      Bounded isInDomainPart CodePoint.isLowerAlphanumeric part := hasShape_iff
  simp only [mem_domains_iff, List.all_eq_true, isPart]
  constructor
  · intro bounded
    exact ⟨_, Text.splitAt_ne_nil dot t, (Text.joined_splitAt dot t).symm, bounded⟩
  · rintro ⟨parts, some, rfl, bounded⟩
    rw [Text.splitAt_joined (fun part member => not_mem_dot_of_bounded (bounded part member)) some]
    exact bounded

/-- A line feed that is passed over stands behind a text of the language, if none of its texts ends
in one. -/
theorem withoutLineEnd_mem_iff {language : Language CodePoint} {t : Text}
    (unended : ∀ s ∈ language, s.getLast? ≠ some lineFeed) :
    withoutLineEnd t ∈ language ↔ t ∈ orLineEnd language := by
  unfold withoutLineEnd
  rw [orLineEnd, Language.mem_mul]
  constructor
  · intro member
    split at member
    · next ended =>
      obtain ⟨front, rfl⟩ := List.getLast?_eq_some_iff.mp ended
      rw [List.dropLast_concat] at member
      exact ⟨front, member, [lineFeed], Or.inr ⟨lineFeed, by simp, rfl⟩, rfl⟩
    · exact ⟨t, member, [], Or.inl rfl, List.append_nil t⟩
  · rintro ⟨front, member, _, rfl | ⟨c, isEnd, rfl⟩, rfl⟩
    · rw [List.append_nil, if_neg (unended front member)]
      exact member
    · rw [of_decide_eq_true isEnd, if_pos List.getLast?_concat, List.dropLast_concat]
      exact member

theorem mem_orLineEnd_iff_of_unended {language : Language CodePoint} {t : Text}
    (unended : t.getLast? ≠ some lineFeed) : t ∈ orLineEnd language ↔ t ∈ language := by
  rw [orLineEnd, Language.mem_mul]
  constructor
  · rintro ⟨front, member, _, rfl | ⟨c, isEnd, rfl⟩, rfl⟩
    · rw [List.append_nil]
      exact member
    · rw [List.getLast?_concat, of_decide_eq_true isEnd] at unended
      exact absurd rfl unended
  · intro member
    exact ⟨t, member, [], Or.inl rfl, List.append_nil t⟩

theorem getLast?_ne_lineFeed_of_mem_names {s : Text} (member : s ∈ names) :
    s.getLast? ≠ some lineFeed := by
  obtain ⟨rest, c, rfl, ends⟩ := (mem_names_iff.mp member).last
  rw [List.getLast?_concat, Ne, Option.some.injEq]
  rintro rfl
  exact absurd ends (by decide)

theorem getLast?_ne_lineFeed_of_mem_values {s : Text} (member : s ∈ values) :
    s.getLast? ≠ some lineFeed := by
  rcases (Language.mem_add _ _ _).mp member with rfl | named
  · simp
  · exact getLast?_ne_lineFeed_of_mem_names named

theorem isInDomainPart_or_dot_of_mem_domains {s : Text} (member : s ∈ domains) :
    ∀ c ∈ s, isInDomainPart c = true ∨ c = dot := by
  obtain ⟨part, isPart, _, later, rfl⟩ := Language.mem_mul.mp member
  obtain ⟨others, rfl, dotted⟩ := Language.mem_kstar.mp later
  intro c among
  rcases List.mem_append.mp among with first | behind
  · exact Or.inl ((mem_domainParts_iff.mp isPart).inside c first)
  · obtain ⟨other, listed, inOther⟩ := List.mem_flatten.mp behind
    obtain ⟨_, ⟨d, isDot, rfl⟩, tail, isTail, rfl⟩ := Language.mem_mul.mp (dotted other listed)
    rcases List.mem_cons.mp inOther with rfl | inTail
    · exact Or.inr (of_decide_eq_true isDot)
    · exact Or.inl ((mem_domainParts_iff.mp isTail).inside c inTail)

theorem getLast?_ne_lineFeed_of_mem_domains {s : Text} (member : s ∈ domains) :
    s.getLast? ≠ some lineFeed := by
  intro ended
  have inside := isInDomainPart_or_dot_of_mem_domains member lineFeed (List.mem_of_getLast? ended)
  exact absurd inside (by decide)

theorem isName_iff {t : Text} : isName t = true ↔ t ∈ orLineEnd names := by
  rw [← withoutLineEnd_mem_iff fun _ => getLast?_ne_lineFeed_of_mem_names]
  exact isWord_iff

theorem isValue_iff {t : Text} : isValue t = true ↔ t ∈ orLineEnd values := by
  rw [← withoutLineEnd_mem_iff fun _ => getLast?_ne_lineFeed_of_mem_values, isValue, Bool.or_eq_true,
    List.isEmpty_iff, isWord_iff]
  rfl

theorem isDomain_iff {t : Text} : isDomain t = true ↔ t ∈ orLineEnd domains := by
  rw [← withoutLineEnd_mem_iff fun _ => getLast?_ne_lineFeed_of_mem_domains]
  exact all_isDomainPart_iff

end ClusterTopology.Label
