import ClusterTopology.Text.Basic

/-!
Texts taken apart at a mark. The parts put together again give the text, and parts without the mark
are found again; the last mark is the one with none behind it.
-/

namespace ClusterTopology.Text

variable {mark : CodePoint} {text front back : Text} {parts : List Text}

theorem joined_cons_cons (separator part other : Text) (parts : List Text) :
    joined separator (part :: other :: parts) = part ++ separator ++ joined separator (other :: parts) := by
  simp [joined, List.intercalate]

theorem joined_cons (mark : CodePoint) (part : Text) (parts : List Text) :
    joined [mark] (part :: parts) = part ++ (parts.map (mark :: ·)).flatten := by
  induction parts generalizing part with
  | nil => simp [joined, List.intercalate]
  | cons other parts ih =>
    rw [joined_cons_cons, ih]
    simp

theorem splitAt_of_not_mem (absent : mark ∉ text) : splitAt mark text = [text] := by
  induction text with
  | nil => rfl
  | cons c rest ih =>
    simp only [List.mem_cons, not_or] at absent
    rw [splitAt, if_neg (Ne.symm absent.1), ih absent.2]

theorem splitAt_append_mark (absent : mark ∉ front) (back : Text) :
    splitAt mark (front ++ mark :: back) = front :: splitAt mark back := by
  induction front with
  | nil => simp [splitAt]
  | cons c rest ih =>
    simp only [List.mem_cons, not_or] at absent
    rw [List.cons_append, splitAt, if_neg (Ne.symm absent.1), ih absent.2]

theorem splitAt_joined (absent : ∀ part ∈ parts, mark ∉ part) (some : parts ≠ []) :
    splitAt mark (joined [mark] parts) = parts := by
  induction parts with
  | nil => exact absurd rfl some
  | cons part parts ih =>
    obtain ⟨here, later⟩ := List.forall_mem_cons.mp absent
    cases parts with
    | nil => simpa [joined, List.intercalate] using splitAt_of_not_mem here
    | cons other parts =>
      rw [joined_cons_cons, List.append_assoc, List.singleton_append, splitAt_append_mark here,
        ih later (by simp)]

theorem splitAt_ne_nil (mark : CodePoint) (text : Text) : splitAt mark text ≠ [] := by
  cases text with
  | nil => simp [splitAt]
  | cons c rest =>
    unfold splitAt
    split
    · simp
    · split <;> simp

theorem joined_splitAt (mark : CodePoint) (text : Text) : joined [mark] (splitAt mark text) = text := by
  induction text with
  | nil => rfl
  | cons c rest ih =>
    unfold splitAt
    split
    · next same =>
      subst same
      rw [joined_cons]
      obtain ⟨part, parts, split⟩ := List.exists_cons_of_ne_nil (splitAt_ne_nil c rest)
      rw [split, joined_cons] at ih
      rw [split]
      simp [← ih]
    · split
      · next none => exact absurd none (splitAt_ne_nil mark rest)
      · next part parts split =>
        rw [split, joined_cons] at ih
        rw [joined_cons, List.cons_append, ih]

theorem splitLast_eq_none_iff : splitLast mark text = none ↔ mark ∉ text := by
  induction text with
  | nil => simp [splitLast]
  | cons c rest ih =>
    unfold splitLast
    rw [List.mem_cons, not_or, ← ih]
    cases splitLast mark rest with
    | some parts => simp
    | none => simp [eq_comm]

theorem splitLast_eq_some_iff :
    splitLast mark text = some (front, back) ↔ text = front ++ mark :: back ∧ mark ∉ back := by
  induction text generalizing front back with
  | nil => simp [splitLast]
  | cons c rest ih =>
    unfold splitLast
    cases later : splitLast mark rest with
    | some found =>
      obtain ⟨start, finish⟩ := found
      obtain ⟨split, last⟩ := ih.mp later
      constructor
      · rintro ⟨⟩
        exact ⟨by rw [split, List.cons_append], last⟩
      · rintro ⟨whole, absent⟩
        cases front with
        | nil =>
          -- The mark that was found stands behind this one.
          obtain ⟨_, rfl⟩ := List.cons.inj whole
          exact absurd (by simp [split]) absent
        | cons d front =>
          obtain ⟨rfl, restSplit⟩ := List.cons.inj whole
          have same := later.symm.trans (ih.mpr ⟨restSplit, absent⟩)
          obtain ⟨rfl, rfl⟩ := Prod.mk.inj (Option.some.inj same)
          rfl
    | none =>
      have nowhere : mark ∉ rest := splitLast_eq_none_iff.mp later
      dsimp only
      constructor
      · intro found
        by_cases same : c = mark
        · rw [if_pos same] at found
          obtain ⟨rfl, rfl⟩ := Prod.mk.inj (Option.some.inj found)
          exact ⟨by rw [same, List.nil_append], nowhere⟩
        · rw [if_neg same] at found
          exact absurd found (by simp)
      · rintro ⟨whole, absent⟩
        cases front with
        | nil =>
          obtain ⟨rfl, rfl⟩ := List.cons.inj whole
          simp
        | cons d front =>
          obtain ⟨rfl, rfl⟩ := List.cons.inj whole
          exact absurd (by simp) nowhere

end ClusterTopology.Text
