import ClusterTopology.Text.Utf8

/-!
Texts that differ in nothing but the ends of their lines. What is read of such a text is a line feed
for each of its line ends, and between two line ends it is the same text.
-/

namespace ClusterTopology

namespace Text

/-- Two texts differ in nothing but the ends of their lines. -/
def SameLines (source other : Text) : Prop := source.withLineFeeds = other.withLineFeeds

def isLineEnd (c : CodePoint) : Bool := c = '\n' || c = '\r'

theorem withLineFeeds_cons {c : CodePoint} (noReturn : c ≠ CodePoint.ofChar '\r') (rest : Text) :
    withLineFeeds (c :: rest) = c :: withLineFeeds rest := by
  rw [withLineFeeds.eq_def]
  exact if_neg noReturn

/-- A carriage return ends a line, together with a line feed that follows. -/
theorem exists_withLineFeeds_return (rest : Text) :
    ∃ after, (rest = after ∨ rest = CodePoint.ofChar '\n' :: after)
      ∧ withLineFeeds (CodePoint.ofChar '\r' :: rest) =
        CodePoint.ofChar '\n' :: withLineFeeds after := by
  cases rest with
  | nil => exact ⟨[], Or.inl rfl, rfl⟩
  | cons d after =>
    by_cases feed : d = CodePoint.ofChar '\n'
    · refine ⟨after, Or.inr (by rw [feed]), ?_⟩
      rw [withLineFeeds.eq_def]
      simp [feed]
    · refine ⟨d :: after, Or.inl rfl, ?_⟩
      rw [withLineFeeds.eq_def]
      simp [feed]

theorem eq_of_isLineEnd {c : CodePoint} (lineEnd : isLineEnd c = true) :
    c = CodePoint.ofChar '\n' ∨ c = CodePoint.ofChar '\r' := by
  simpa [isLineEnd] using lineEnd

theorem head_withLineFeeds_of_lineEnd {c : CodePoint} (lineEnd : isLineEnd c = true) (rest : Text) :
    ∃ after, withLineFeeds (c :: rest) = CodePoint.ofChar '\n' :: after := by
  rcases eq_of_isLineEnd lineEnd with rfl | rfl
  · exact ⟨_, withLineFeeds_cons (by decide) rest⟩
  · obtain ⟨after, _, same⟩ := exists_withLineFeeds_return rest
    exact ⟨_, same⟩

theorem not_lineEnd_iff {c : CodePoint} :
    isLineEnd c = false ↔ c ≠ CodePoint.ofChar '\n' ∧ c ≠ CodePoint.ofChar '\r' := by
  simp [isLineEnd]

theorem not_lineEnd_of (p : CodePoint → Prop) (feed : ¬p (CodePoint.ofChar '\n'))
    (carriage : ¬p (CodePoint.ofChar '\r')) {c : CodePoint} (holds : p c) : isLineEnd c = false := by
  cases ends : isLineEnd c with
  | false => rfl
  | true =>
    rcases eq_of_isLineEnd ends with rfl | rfl
    · exact absurd holds feed
    · exact absurd holds carriage

namespace SameLines

variable {source other rest : Text} {c d : CodePoint}

theorem symm (same : SameLines source other) : SameLines other source := Eq.symm same

theorem cons_iff (noEnd : isLineEnd c = false) {after : Text} :
    SameLines (c :: rest) (c :: after) ↔ SameLines rest after := by
  obtain ⟨_, noReturn⟩ := not_lineEnd_iff.mp noEnd
  unfold SameLines
  rw [withLineFeeds_cons noReturn, withLineFeeds_cons noReturn, List.cons_inj_right]

theorem exists_of_cons (same : SameLines (c :: rest) other) (noEnd : isLineEnd c = false) :
    ∃ after, other = c :: after ∧ SameLines rest after := by
  obtain ⟨noFeed, noReturn⟩ := not_lineEnd_iff.mp noEnd
  cases other with
  | nil =>
    unfold SameLines at same
    rw [withLineFeeds_cons noReturn] at same
    exact absurd same (by simp [withLineFeeds])
  | cons d after =>
    have sameHead : d = c := by
      unfold SameLines at same
      rw [withLineFeeds_cons noReturn] at same
      cases ends : isLineEnd d with
      | true =>
        obtain ⟨_, feeds⟩ := head_withLineFeeds_of_lineEnd ends after
        rw [feeds] at same
        exact absurd (List.cons.inj same).1 noFeed
      | false =>
        rw [withLineFeeds_cons (not_lineEnd_iff.mp ends).2] at same
        exact (List.cons.inj same).1.symm
    subst sameHead
    exact ⟨after, rfl, (cons_iff noEnd).mp same⟩

theorem eq_nil (same : SameLines [] other) : other = [] := by
  cases other with
  | nil => rfl
  | cons d after =>
    unfold SameLines at same
    cases ends : isLineEnd d with
    | true =>
      obtain ⟨_, feeds⟩ := head_withLineFeeds_of_lineEnd ends after
      rw [feeds] at same
      exact absurd same (by simp [withLineFeeds])
    | false =>
      rw [withLineFeeds_cons (not_lineEnd_iff.mp ends).2] at same
      exact absurd same (by simp [withLineFeeds])

theorem cases (same : SameLines source other) :
    (source = [] ∧ other = [])
      ∨ (∃ c rest after, source = c :: rest ∧ other = c :: after ∧ isLineEnd c = false
        ∧ SameLines rest after)
      ∨ ∃ c d rest after, source = c :: rest ∧ other = d :: after ∧ isLineEnd c = true
        ∧ isLineEnd d = true := by
  cases source with
  | nil => exact Or.inl ⟨rfl, same.eq_nil⟩
  | cons c rest =>
    refine Or.inr ?_
    cases endsHere : isLineEnd c with
    | false =>
      obtain ⟨after, rfl, sameRest⟩ := same.exists_of_cons endsHere
      exact Or.inl ⟨c, rest, after, rfl, rfl, endsHere, sameRest⟩
    | true =>
      cases other with
      | nil => exact absurd same.symm.eq_nil (by simp)
      | cons d after =>
        cases endsThere : isLineEnd d with
        | true => exact Or.inr ⟨c, d, rest, after, rfl, rfl, endsHere, endsThere⟩
        | false =>
          obtain ⟨_, sameHead, _⟩ := same.symm.exists_of_cons endsThere
          obtain ⟨rfl, _⟩ := List.cons.inj sameHead
          exact absurd (endsHere.symm.trans endsThere) (by simp)

theorem takeWhile_eq {p : CodePoint → Bool} (noEnd : ∀ c, isLineEnd c = true → p c = false)
    (same : SameLines source other) :
    source.takeWhile p = other.takeWhile p
      ∧ SameLines (source.dropWhile p) (other.dropWhile p) := by
  induction source generalizing other with
  | nil =>
    rw [same.eq_nil]
    exact ⟨rfl, rfl⟩
  | cons c rest ih =>
    rcases same.cases with ⟨nothing, _⟩ | ⟨_, _, after, found, rfl, _, sameRest⟩
      | ⟨_, d, _, after, found, rfl, endsHere, endsThere⟩
    · exact absurd nothing (by simp)
    · obtain ⟨rfl, rfl⟩ := List.cons.inj found
      cases holds : p c with
      | true => simpa [holds] using ih sameRest
      | false => simpa [holds] using same
    · obtain ⟨rfl, rfl⟩ := List.cons.inj found
      simpa [noEnd c endsHere, noEnd d endsThere] using same

theorem drop_of_isPrefixOf {word : Text} (noEnd : word.all fun c => !isLineEnd c)
    (same : SameLines source other) :
    word.isPrefixOf source = word.isPrefixOf other
      ∧ (word.isPrefixOf source = true →
        SameLines (source.drop word.length) (other.drop word.length)) := by
  induction word generalizing source other with
  | nil => exact ⟨by simp, fun _ => by simpa using same⟩
  | cons letter word ih =>
    obtain ⟨letterNoEnd, wordNoEnd⟩ : isLineEnd letter = false ∧ word.all fun c => !isLineEnd c := by
      simpa using noEnd
    rcases same.cases with ⟨rfl, rfl⟩ | ⟨c, rest, after, rfl, rfl, _, sameRest⟩
      | ⟨c, d, rest, after, rfl, rfl, endsHere, endsThere⟩
    · exact ⟨rfl, fun found => absurd found (by simp)⟩
    · obtain ⟨samePrefix, sameDrop⟩ := ih wordNoEnd sameRest
      simp only [List.isPrefixOf, samePrefix, List.length_cons, List.drop_succ_cons,
        Bool.and_eq_true, true_and]
      exact fun found => sameDrop (samePrefix ▸ found.2)
    · have notHere : (letter == c) = false :=
        beq_false_of_ne fun same => by simp [same, endsHere] at letterNoEnd
      have notThere : (letter == d) = false :=
        beq_false_of_ne fun same => by simp [same, endsThere] at letterNoEnd
      simp [List.isPrefixOf, notHere, notThere]

end SameLines
end Text

end ClusterTopology
