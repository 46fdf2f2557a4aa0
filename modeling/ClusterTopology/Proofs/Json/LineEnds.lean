import ClusterTopology.Proofs.Json.ReadBack
import ClusterTopology.Proofs.Text.LineEnds
import Mathlib.Data.Option.Basic

/-!
Documents and line ends. Between the parts of a document all ways to end a line are layout, and
inside its texts none of them may stand. So two texts that differ in nothing but the ends of their
lines hold the same document, or neither holds one. The readings are followed step by step: each
step takes the same from both texts, and leaves texts that again differ in their line ends only.
-/

namespace ClusterTopology

namespace Json

open Text

variable {source other : Text}

theorem skipLayout_withLineFeeds (source : Text) :
    skipLayout source.withLineFeeds = (skipLayout source).withLineFeeds := by
  have feed : isLayout (CodePoint.ofChar '\n') = true := by decide
  have carriage : isLayout (CodePoint.ofChar '\r') = true := by decide
  fun_induction withLineFeeds source with
  | case1 => rfl
  | case2 => rfl
  | case3 after ih =>
    simpa [skipLayout, feed, carriage] using ih
  | case4 d after noFeed ih =>
    simpa [skipLayout, feed, carriage] using ih
  | case5 c rest noReturn ih =>
    cases layout : isLayout c with
    | true => simpa [skipLayout, layout] using ih
    | false => simp [skipLayout, layout, withLineFeeds_cons noReturn]

theorem sameLines_skipLayout (same : SameLines source other) :
    SameLines (skipLayout source) (skipLayout other) := by
  unfold SameLines
  rw [← skipLayout_withLineFeeds, ← skipLayout_withLineFeeds, same]

/-! Numbers and words. -/

def SameFound {α : Type} (found other : α × Text) : Prop :=
  found.1 = other.1 ∧ SameLines found.2 other.2

theorem SameFound.cases {α : Type} {found other : Option (α × Text)}
    (same : Option.Rel SameFound found other) :
    (found = none ∧ other = none)
      ∨ ∃ value rest behind, found = some (value, rest) ∧ other = some (value, behind)
        ∧ SameLines rest behind := by
  cases same with
  | none => exact Or.inl ⟨rfl, rfl⟩
  | @some first second same =>
    obtain ⟨value, rest⟩ := first
    obtain ⟨again, behind⟩ := second
    obtain ⟨rfl, sameRest⟩ := same
    exact Or.inr ⟨value, rest, behind, rfl, rfl, sameRest⟩

theorem isDigit_of_isLineEnd (c : CodePoint) (lineEnd : isLineEnd c = true) : isDigit c = false := by
  rcases eq_of_isLineEnd lineEnd with rfl | rfl <;> decide

theorem ne_of_isLineEnd {c d : CodePoint} (lineEnd : isLineEnd c = true)
    (noEnd : isLineEnd d = false) : c ≠ d := by
  rintro rfl
  exact absurd (lineEnd.symm.trans noEnd) (by simp)

theorem takeWhole_sameLines (same : SameLines source other) :
    Option.Rel SameFound (takeWhole source) (takeWhole other) := by
  obtain ⟨sameDigits, sameRest⟩ := same.takeWhile_eq isDigit_of_isLineEnd
  rcases same.cases with ⟨rfl, rfl⟩ | ⟨c, rest, after, rfl, rfl, _, sameAfter⟩
    | ⟨c, d, rest, after, rfl, rfl, endsHere, endsThere⟩
  · exact .none
  · simp only [takeWhole]
    by_cases zero : c = CodePoint.ofChar '0'
    · simpa only [if_pos zero] using .some ⟨rfl, sameAfter⟩
    · cases digit : isDigit c with
      | true => simpa only [if_neg zero, ↓reduceIte] using .some ⟨sameDigits, sameRest⟩
      | false => simpa only [if_neg zero, Bool.false_eq_true, ↓reduceIte] using .none
  · have noEnd : isLineEnd (CodePoint.ofChar '0') = false := by decide
    simp only [takeWhole, if_neg (ne_of_isLineEnd endsHere noEnd),
      if_neg (ne_of_isLineEnd endsThere noEnd), isDigit_of_isLineEnd _ endsHere,
      isDigit_of_isLineEnd _ endsThere, Bool.false_eq_true, ↓reduceIte]
    exact .none

theorem takeFraction_sameLines (same : SameLines source other) :
    Option.Rel SameFound (takeFraction source) (takeFraction other) := by
  have noEnd : isLineEnd (CodePoint.ofChar '.') = false := by decide
  rcases same.cases with ⟨rfl, rfl⟩ | ⟨c, rest, after, rfl, rfl, _, sameAfter⟩
    | ⟨c, d, rest, after, rfl, rfl, endsHere, endsThere⟩
  · exact .none
  · obtain ⟨sameDigits, sameRest⟩ := sameAfter.takeWhile_eq isDigit_of_isLineEnd
    simp only [takeFraction, sameDigits]
    split
    · exact .some ⟨rfl, sameRest⟩
    · exact .none
  · simp only [takeFraction, ne_of_isLineEnd endsHere noEnd, ne_of_isLineEnd endsThere noEnd,
      decide_false, Bool.false_and, Bool.false_eq_true, ↓reduceIte]
    exact .none

theorem takeSign_sameLines (same : SameLines source other) :
    SameFound (takeSign source) (takeSign other) := by
  rcases same.cases with ⟨rfl, rfl⟩ | ⟨c, rest, after, rfl, rfl, _, sameAfter⟩
    | ⟨c, d, rest, after, rfl, rfl, endsHere, endsThere⟩
  · exact ⟨rfl, rfl⟩
  · simp only [takeSign]
    split
    · exact ⟨rfl, sameAfter⟩
    split
    · exact ⟨rfl, sameAfter⟩
    · exact ⟨rfl, same⟩
  · have noMinus : isLineEnd (CodePoint.ofChar '-') = false := by decide
    have noPlus : isLineEnd (CodePoint.ofChar '+') = false := by decide
    simp only [takeSign, if_neg (ne_of_isLineEnd endsHere noMinus),
      if_neg (ne_of_isLineEnd endsThere noMinus), if_neg (ne_of_isLineEnd endsHere noPlus),
      if_neg (ne_of_isLineEnd endsThere noPlus)]
    exact ⟨rfl, same⟩

theorem takeExponent_sameLines (same : SameLines source other) :
    Option.Rel SameFound (takeExponent source) (takeExponent other) := by
  have noSmall : isLineEnd (CodePoint.ofChar 'e') = false := by decide
  have noLarge : isLineEnd (CodePoint.ofChar 'E') = false := by decide
  rcases same.cases with ⟨rfl, rfl⟩ | ⟨c, rest, after, rfl, rfl, _, sameAfter⟩
    | ⟨c, d, rest, after, rfl, rfl, endsHere, endsThere⟩
  · exact .none
  · obtain ⟨sameSign, sameUnsigned⟩ := takeSign_sameLines sameAfter
    obtain ⟨sameDigits, sameRest⟩ := sameUnsigned.takeWhile_eq isDigit_of_isLineEnd
    simp only [takeExponent, sameSign, sameDigits]
    split
    · exact .some ⟨rfl, sameRest⟩
    · exact .none
  · simp only [takeExponent, ne_of_isLineEnd endsHere noSmall, ne_of_isLineEnd endsHere noLarge,
      ne_of_isLineEnd endsThere noSmall, ne_of_isLineEnd endsThere noLarge, decide_false,
      Bool.or_self, Bool.false_and, Bool.false_eq_true, ↓reduceIte]
    exact .none

def takeMinus : Text → Bool × Text
  | [] => (false, [])
  | c :: rest => if c = '-' then (true, rest) else (false, c :: rest)

theorem takeMinus_sameLines (same : SameLines source other) :
    SameFound (takeMinus source) (takeMinus other) := by
  have noEnd : isLineEnd (CodePoint.ofChar '-') = false := by decide
  rcases same.cases with ⟨rfl, rfl⟩ | ⟨c, rest, after, rfl, rfl, _, sameAfter⟩
    | ⟨c, d, rest, after, rfl, rfl, endsHere, endsThere⟩
  · exact ⟨rfl, rfl⟩
  · simp only [takeMinus]
    split
    · exact ⟨rfl, sameAfter⟩
    · exact ⟨rfl, same⟩
  · simp only [takeMinus, if_neg (ne_of_isLineEnd endsHere noEnd),
      if_neg (ne_of_isLineEnd endsThere noEnd)]
    exact ⟨rfl, same⟩

def readUnsigned (limited negative : Bool) (source unsigned : Text) : Reading Json :=
  match takeWhole unsigned with
  | none => .error (.problem .valueExpected source)
  | some (whole, after) =>
    match takeFraction after with
    | some (fraction, behind) =>
      match takeExponent behind with
      | some (exponent, rest) => .ok (numberOf negative whole fraction exponent, rest)
      | none => .ok (numberOf negative whole fraction 0, behind)
    | none =>
      match takeExponent after with
      | some (exponent, rest) => .ok (numberOf negative whole [] exponent, rest)
      | none =>
        if limited && digitLimit < whole.length then .error (.tooManyDigits whole.length)
        else .ok (.int (if negative then -(digitsValue whole : Int) else digitsValue whole), after)

theorem readNumber_eq (limited : Bool) (source : Text) :
    readNumber limited source =
      readUnsigned limited (takeMinus source).1 source (takeMinus source).2 := by
  cases source with
  | nil => rfl
  | cons c rest =>
    by_cases minus : c = CodePoint.ofChar '-'
    · simp only [readNumber, takeMinus, if_pos minus]
      rfl
    · simp only [readNumber, takeMinus, if_neg minus]
      rfl

theorem readNumber_sameLines {limited : Bool} {value : Json} {rest : Text}
    (same : SameLines source other) (read : readNumber limited source = .ok (value, rest)) :
    ∃ behind, readNumber limited other = .ok (value, behind) ∧ SameLines rest behind := by
  obtain ⟨sameSign, sameUnsigned⟩ := takeMinus_sameLines same
  rw [readNumber_eq, sameSign] at read
  rw [readNumber_eq]
  unfold readUnsigned at read ⊢
  rcases SameFound.cases (takeWhole_sameLines sameUnsigned) with
    ⟨none, _⟩ | ⟨whole, after, afterThere, here, there, sameAfter⟩
  · simp only [none] at read
    exact absurd read (by simp)
  simp only [here, there] at read ⊢
  rcases SameFound.cases (takeFraction_sameLines sameAfter) with
    ⟨noneHere, noneThere⟩ | ⟨fraction, behind, behindThere, here, there, sameBehind⟩
  · simp only [noneHere, noneThere] at read ⊢
    rcases SameFound.cases (takeExponent_sameLines sameAfter) with
      ⟨noneHere, noneThere⟩ | ⟨exponent, left, leftThere, here, there, sameLeft⟩
    · simp only [noneHere, noneThere] at read ⊢
      split at read
      · exact absurd read (by simp)
      · next few =>
        obtain ⟨rfl, rfl⟩ := Prod.mk.inj (Except.ok.inj read)
        exact ⟨afterThere, if_neg few, sameAfter⟩
    · simp only [here, there] at read ⊢
      obtain ⟨rfl, rfl⟩ := Prod.mk.inj (Except.ok.inj read)
      exact ⟨leftThere, rfl, sameLeft⟩
  · simp only [here, there] at read ⊢
    rcases SameFound.cases (takeExponent_sameLines sameBehind) with
      ⟨noneHere, noneThere⟩ | ⟨exponent, left, leftThere, here, there, sameLeft⟩
    · simp only [noneHere, noneThere] at read ⊢
      obtain ⟨rfl, rfl⟩ := Prod.mk.inj (Except.ok.inj read)
      exact ⟨behindThere, rfl, sameBehind⟩
    · simp only [here, there] at read ⊢
      obtain ⟨rfl, rfl⟩ := Prod.mk.inj (Except.ok.inj read)
      exact ⟨leftThere, rfl, sameLeft⟩

theorem readWord?_sameLines (same : SameLines source other) :
    Option.Rel SameFound (readWord? source) (readWord? other) := by
  have noEnd : ∀ entry ∈ words, entry.1.all fun c => !isLineEnd c := by decide
  unfold readWord?
  generalize words = entries at noEnd
  induction entries with
  | nil => exact .none
  | cons entry entries ih =>
    obtain ⟨word, value⟩ := entry
    obtain ⟨samePrefix, sameDrop⟩ := same.drop_of_isPrefixOf (noEnd _ List.mem_cons_self)
    have others := ih fun entry member => noEnd entry (List.mem_cons_of_mem _ member)
    simp only [List.findSome?_cons, ← samePrefix]
    cases found : word.isPrefixOf source with
    | true => exact .some ⟨rfl, sameDrop found⟩
    | false => exact others

/-! How much is read. -/

theorem length_dropWhile_le (p : CodePoint → Bool) (source : Text) :
    (source.dropWhile p).length ≤ source.length :=
  (List.dropWhile_suffix p).length_le

theorem length_lt_of_takeWhole {whole rest : Text} (found : takeWhole source = some (whole, rest)) :
    rest.length < source.length := by
  cases source with
  | nil => exact absurd found (by simp [takeWhole])
  | cons c after =>
    simp only [takeWhole] at found
    split at found
    · obtain ⟨_, rfl⟩ := Prod.mk.inj (Option.some.inj found)
      simp
    split at found
    · next digit =>
      obtain ⟨_, rfl⟩ := Prod.mk.inj (Option.some.inj found)
      have shorter := length_dropWhile_le isDigit after
      rw [List.dropWhile_cons_of_pos digit, List.length_cons]
      omega
    · exact absurd found (by simp)

theorem length_le_of_takeFraction {fraction rest : Text}
    (found : takeFraction source = some (fraction, rest)) : rest.length ≤ source.length := by
  cases source with
  | nil => exact absurd found (by simp [takeFraction])
  | cons c after =>
    simp only [takeFraction] at found
    split at found
    · obtain ⟨_, rfl⟩ := Prod.mk.inj (Option.some.inj found)
      exact Nat.le_trans (length_dropWhile_le isDigit after) (by simp)
    · exact absurd found (by simp)

theorem length_takeSign_le (source : Text) : (takeSign source).2.length ≤ source.length := by
  cases source with
  | nil => exact Nat.le_refl 0
  | cons c rest =>
    simp only [takeSign]
    split
    · simp
    split
    · simp
    · exact Nat.le_refl _

theorem length_le_of_takeExponent {exponent : Int} {rest : Text}
    (found : takeExponent source = some (exponent, rest)) : rest.length ≤ source.length := by
  cases source with
  | nil => exact absurd found (by simp [takeExponent])
  | cons c after =>
    simp only [takeExponent] at found
    split at found
    · obtain ⟨_, rfl⟩ := Prod.mk.inj (Option.some.inj found)
      have unsigned := length_takeSign_le after
      have digits := length_dropWhile_le isDigit (takeSign after).2
      rw [List.length_cons]
      omega
    · exact absurd found (by simp)

theorem length_takeMinus_le (source : Text) : (takeMinus source).2.length ≤ source.length := by
  cases source with
  | nil => exact Nat.le_refl 0
  | cons c rest =>
    simp only [takeMinus]
    split
    · simp
    · exact Nat.le_refl _

theorem length_lt_of_readNumber {limited : Bool} {value : Json} {rest : Text}
    (read : readNumber limited source = .ok (value, rest)) : rest.length < source.length := by
  have unsigned := length_takeMinus_le source
  rw [readNumber_eq, readUnsigned] at read
  split at read
  · exact absurd read (by simp)
  next whole after found =>
  have shorter := length_lt_of_takeWhole found
  split at read
  · next fraction behind found =>
    have fractional := length_le_of_takeFraction found
    split at read
    · next exponent left found =>
      have exponential := length_le_of_takeExponent found
      obtain ⟨_, rfl⟩ := Prod.mk.inj (Except.ok.inj read)
      omega
    · obtain ⟨_, rfl⟩ := Prod.mk.inj (Except.ok.inj read)
      omega
  · split at read
    · next exponent left found =>
      have exponential := length_le_of_takeExponent found
      obtain ⟨_, rfl⟩ := Prod.mk.inj (Except.ok.inj read)
      omega
    split at read
    · exact absurd read (by simp)
    · obtain ⟨_, rfl⟩ := Prod.mk.inj (Except.ok.inj read)
      omega

theorem length_lt_of_readWord {value : Json} {rest : Text}
    (read : readWord? source = some (value, rest)) : rest.length < source.length := by
  have filled : ∀ entry ∈ words, 0 < entry.1.length := by decide
  unfold readWord? at read
  obtain ⟨entry, member, found⟩ := List.exists_of_findSome?_eq_some read
  dsimp only at found
  split at found
  · next front =>
    obtain ⟨_, rfl⟩ := Prod.mk.inj (Option.some.inj found)
    have enough := (List.isPrefixOf_iff_prefix.mp front).length_le
    have positive := filled entry member
    rw [List.length_drop]
    omega
  · exact absurd found (by simp)

/-! Texts. -/

theorem exists_of_cons_eq_ok {c : CodePoint} {reading : Reading Text} {content rest : Text}
    (read : reading.cons c = .ok (content, rest)) :
    ∃ more, reading = .ok (more, rest) ∧ ∀ behind,
      Reading.cons c (.ok (more, behind)) = .ok (content, behind) := by
  cases reading with
  | error stop => exact absurd read (by simp [Reading.cons])
  | ok found =>
    obtain ⟨more, left⟩ := found
    obtain ⟨rfl, rfl⟩ := Prod.mk.inj (Except.ok.inj read)
    exact ⟨more, rfl, fun _ => rfl⟩

theorem exists_of_consHigh_eq_ok {high : Option Nat} {reading : Reading Text} {content rest : Text}
    (read : reading.consHigh high = .ok (content, rest)) :
    ∃ more, reading = .ok (more, rest) ∧ ∀ behind,
      Reading.consHigh high (.ok (more, behind)) = .ok (content, behind) := by
  cases high with
  | none => exact ⟨content, read, fun _ => rfl⟩
  | some unit => exact exists_of_cons_eq_ok read

theorem isLineEnd_of_printable {c : CodePoint} (printable : ¬c.val < 0x20) : isLineEnd c = false :=
  not_lineEnd_of (fun c => ¬c.val < 0x20) (by decide) (by decide) printable

theorem isLineEnd_of_simpleEscape {e meant : CodePoint} (simple : simpleEscape? e = some meant) :
    isLineEnd e = false := by
  have known : (simpleEscape? e).isSome = true := by rw [simple, Option.isSome_some]
  exact not_lineEnd_of (fun e => (simpleEscape? e).isSome = true) (by decide) (by decide) known

theorem isLineEnd_of_hexValue {c : CodePoint} {value : Nat} (digit : hexValue? c = some value) :
    isLineEnd c = false := by
  have known : (hexValue? c).isSome = true := by rw [digit, Option.isSome_some]
  exact not_lineEnd_of (fun c => (hexValue? c).isSome = true) (by decide) (by decide) known

theorem exists_of_codeUnit {a b c d : CodePoint} {unit : Nat} (digits : codeUnit? a b c d = some unit)
    (same : SameLines
      (CodePoint.ofChar '\\' :: CodePoint.ofChar 'u' :: a :: b :: c :: d :: source) other) :
    ∃ after, SameLines source after
      ∧ other = CodePoint.ofChar '\\' :: CodePoint.ofChar 'u' :: a :: b :: c :: d :: after := by
  simp only [codeUnit?, Option.bind_eq_bind, Option.bind_eq_some_iff] at digits
  obtain ⟨_, first, _, second, _, third, _, fourth, _⟩ := digits
  obtain ⟨_, rfl, sameUnit⟩ := same.exists_of_cons (by decide)
  obtain ⟨_, rfl, sameDigits⟩ := sameUnit.exists_of_cons (by decide)
  obtain ⟨_, rfl, sameFirst⟩ := sameDigits.exists_of_cons (isLineEnd_of_hexValue first)
  obtain ⟨_, rfl, sameSecond⟩ := sameFirst.exists_of_cons (isLineEnd_of_hexValue second)
  obtain ⟨_, rfl, sameThird⟩ := sameSecond.exists_of_cons (isLineEnd_of_hexValue third)
  obtain ⟨after, rfl, sameRest⟩ := sameThird.exists_of_cons (isLineEnd_of_hexValue fourth)
  exact ⟨after, sameRest, rfl⟩

theorem ne_nil_of_sameLines (same : SameLines source other) (filled : ¬source.isEmpty = true) :
    other ≠ [] := by
  rintro rfl
  rw [same.symm.eq_nil] at filled
  exact filled rfl

/-- A text that is read to its closing quote holds no line end. -/
theorem readText_sameLines {opening openingThere : Text} {high : Option Nat} {content rest : Text}
    (same : SameLines source other) (read : readText opening high source = .ok (content, rest)) :
    ∃ behind, readText openingThere high other = .ok (content, behind) ∧ SameLines rest behind
      ∧ behind.length < other.length := by
  fun_induction readText opening high source generalizing other content rest with
  | case2 high rest =>
    obtain ⟨after, rfl, sameAfter⟩ := same.exists_of_cons (by decide)
    obtain ⟨more, found, again⟩ := exists_of_consHigh_eq_ok read
    obtain ⟨rfl, rfl⟩ := Prod.mk.inj (Except.ok.inj found)
    exact ⟨after, (readText_quote high).trans (again after), sameAfter, by simp⟩
  | case4 high c rest noQuote printable noEscape ih =>
    obtain ⟨after, rfl, sameAfter⟩ := same.exists_of_cons (isLineEnd_of_printable printable)
    obtain ⟨more, inner, again⟩ := exists_of_consHigh_eq_ok read
    obtain ⟨left, innermost, againInside⟩ := exists_of_cons_eq_ok inner
    obtain ⟨behind, there, sameRest, shorter⟩ := ih sameAfter innermost
    refine ⟨behind, ?_, sameRest, Nat.lt_succ_of_lt shorter⟩
    rw [readText_plain high (Nat.not_lt.mp printable) noQuote noEscape, there, againInside, again]
  | case6 high c noQuote printable escape e after notUnit meant simple ih =>
    obtain rfl : c = CodePoint.ofChar '\\' := Decidable.not_not.mp escape
    obtain ⟨_, rfl, sameHere⟩ := same.exists_of_cons (by decide)
    obtain ⟨later, rfl, sameLater⟩ := sameHere.exists_of_cons (isLineEnd_of_simpleEscape simple)
    obtain ⟨more, inner, again⟩ := exists_of_consHigh_eq_ok read
    obtain ⟨left, innermost, againInside⟩ := exists_of_cons_eq_ok inner
    obtain ⟨behind, there, sameRest, shorter⟩ := ih sameLater innermost
    refine ⟨behind, ?_, sameRest, by simp only [List.length_cons]; omega⟩
    rw [readText_escape high simple notUnit, there, againInside, again]
  | case10 high c noQuote printable escape e isUnit a₁ a₂ a₃ a₄ more unit digits filled first ih =>
    obtain rfl : c = CodePoint.ofChar '\\' := Decidable.not_not.mp escape
    obtain rfl : e = CodePoint.ofChar 'u' := Decidable.not_not.mp isUnit
    obtain ⟨later, sameLater, rfl⟩ := exists_of_codeUnit digits same
    obtain ⟨left, inner, again⟩ := exists_of_consHigh_eq_ok read
    obtain ⟨behind, there, sameRest, shorter⟩ := ih sameLater inner
    refine ⟨behind, ?_, sameRest, by simp only [List.length_cons]; omega⟩
    rw [readText_codeUnit high digits (ne_nil_of_sameLines sameLater filled), if_pos first, there,
      again]
  | case11 c noQuote printable escape e isUnit a₁ a₂ a₃ a₄ more unit digits filled notFirst first
      second ih =>
    obtain rfl : c = CodePoint.ofChar '\\' := Decidable.not_not.mp escape
    obtain rfl : e = CodePoint.ofChar 'u' := Decidable.not_not.mp isUnit
    obtain ⟨later, sameLater, rfl⟩ := exists_of_codeUnit digits same
    obtain ⟨left, inner, again⟩ := exists_of_cons_eq_ok read
    obtain ⟨behind, there, sameRest, shorter⟩ := ih sameLater inner
    refine ⟨behind, ?_, sameRest, by simp only [List.length_cons]; omega⟩
    rw [readText_codeUnit _ digits (ne_nil_of_sameLines sameLater filled), if_neg notFirst, second]
    simp only [there, again]
  | case12 high c noQuote printable escape e isUnit a₁ a₂ a₃ a₄ more unit digits filled notFirst
      notSecond ih =>
    obtain rfl : c = CodePoint.ofChar '\\' := Decidable.not_not.mp escape
    obtain rfl : e = CodePoint.ofChar 'u' := Decidable.not_not.mp isUnit
    obtain ⟨later, sameLater, rfl⟩ := exists_of_codeUnit digits same
    obtain ⟨left, inner, again⟩ := exists_of_consHigh_eq_ok read
    obtain ⟨innermost, insideRead, againInside⟩ := exists_of_cons_eq_ok inner
    obtain ⟨behind, there, sameRest, shorter⟩ := ih sameLater insideRead
    refine ⟨behind, ?_, sameRest, by simp only [List.length_cons]; omega⟩
    rw [readText_codeUnit high digits (ne_nil_of_sameLines sameLater filled), if_neg notFirst]
    split
    · next found low => exact (notSecond found rfl low).elim
    · rw [there, againInside, again]
  | _ => exact absurd read (by simp)

/-! Values, items and members. -/

/-- A reader finds a value in front of a text, and what it leaves is shorter, as soon as there is
fuel enough for what lies between. -/
structure Finds {α : Type} (reader : Nat → Text → Reading α) (extra : Nat) (source : Text) (value : α)
    (rest : Text) : Prop where
  shorter : rest.length < source.length
  reads : ∀ fuel, 2 * (source.length - rest.length) + extra ≤ fuel →
    reader fuel source = .ok (value, rest)

theorem Finds.of_succ {α : Type} {reader : Nat → Text → Reading α} {extra : Nat} {value : α}
    {rest : Text} (shorter : rest.length < source.length)
    (reads : ∀ fuel, 2 * (source.length - rest.length) + extra ≤ fuel + 1 →
      reader (fuel + 1) source = .ok (value, rest)) : Finds reader extra source value rest := by
  refine ⟨shorter, fun fuel enough => ?_⟩
  cases fuel with
  | zero => omega
  | succ fuel => exact reads fuel enough

theorem length_skipLayout_le (source : Text) : (skipLayout source).length ≤ source.length :=
  length_dropWhile_le isLayout source

section

variable {limited : Bool} {room : Nat} {rest behind after : Text}

abbrev valueReader (limited : Bool) (room : Nat) : Nat → Text → Reading Json :=
  fun fuel => readValue limited fuel room

abbrev itemReader (limited : Bool) (room : Nat) : Nat → Text → Reading (List Json) :=
  fun fuel => readItems limited fuel room

abbrev memberReader (limited : Bool) (room : Nat) : Nat → Text → Reading (List (Text × Json)) :=
  fun fuel => readMembers limited fuel room

theorem finds_text {content : Text} (shorter : behind.length < rest.length)
    (read : readText (CodePoint.ofChar '"' :: rest) none rest = .ok (content, behind)) :
    Finds (valueReader limited room) 0 (CodePoint.ofChar '"' :: rest) (.text content) behind := by
  refine .of_succ (Nat.lt_succ_of_lt shorter) fun fuel _ => ?_
  simp only [valueReader, readValue, ↓reduceIte, read]

theorem finds_scalar {c : CodePoint} {value : Json} (shorter : behind.length < (c :: rest).length)
    (noQuote : c ≠ CodePoint.ofChar '"') (noList : c ≠ CodePoint.ofChar '[')
    (noObject : c ≠ CodePoint.ofChar '{')
    (read : readWord? (c :: rest) = some (value, behind)
      ∨ (readWord? (c :: rest) = none ∧ readNumber limited (c :: rest) = .ok (value, behind))) :
    Finds (valueReader limited room) 0 (c :: rest) value behind := by
  refine .of_succ shorter fun fuel _ => ?_
  rcases read with word | ⟨noWord, number⟩
  · simp only [valueReader, readValue, noQuote, noList, noObject, ↓reduceIte, word]
  · simp only [valueReader, readValue, noQuote, noList, noObject, ↓reduceIte, noWord, number]

theorem finds_emptyList (skipped : skipLayout rest = CodePoint.ofChar ']' :: behind) :
    Finds (valueReader limited (room + 1)) 0 (CodePoint.ofChar '[' :: rest) (.list []) behind := by
  have shorter := length_skipLayout_le rest
  rw [skipped, List.length_cons] at shorter
  refine .of_succ (by rw [List.length_cons]; omega) fun fuel _ => ?_
  have noQuote : CodePoint.ofChar '[' ≠ CodePoint.ofChar '"' := by decide
  simp only [valueReader, readValue, noQuote, skipped, ↓reduceIte]

theorem finds_list {d : CodePoint} {inner : Text} {items : List Json}
    (skipped : skipLayout rest = d :: inner) (filled : d ≠ CodePoint.ofChar ']')
    (found : Finds (itemReader limited room) 1 (d :: inner) items behind) :
    Finds (valueReader limited (room + 1)) 0 (CodePoint.ofChar '[' :: rest) (.list items) behind := by
  have shorter := length_skipLayout_le rest
  have inside := found.shorter
  rw [skipped] at shorter
  refine .of_succ (by rw [List.length_cons]; omega) fun fuel enough => ?_
  rw [List.length_cons] at enough
  have noQuote : CodePoint.ofChar '[' ≠ CodePoint.ofChar '"' := by decide
  simp only [valueReader, readValue, noQuote, skipped, filled, found.reads fuel (by omega),
    ↓reduceIte]

theorem finds_emptyObject (skipped : skipLayout rest = CodePoint.ofChar '}' :: behind) :
    Finds (valueReader limited (room + 1)) 0 (CodePoint.ofChar '{' :: rest) (.object []) behind := by
  have shorter := length_skipLayout_le rest
  rw [skipped, List.length_cons] at shorter
  refine .of_succ (by rw [List.length_cons]; omega) fun fuel _ => ?_
  have noQuote : CodePoint.ofChar '{' ≠ CodePoint.ofChar '"' := by decide
  have noList : CodePoint.ofChar '{' ≠ CodePoint.ofChar '[' := by decide
  simp only [valueReader, readValue, noQuote, noList, skipped, ↓reduceIte]

theorem finds_object {d : CodePoint} {inner : Text} {members : List (Text × Json)}
    (skipped : skipLayout rest = d :: inner) (filled : d ≠ CodePoint.ofChar '}')
    (found : Finds (memberReader limited room) 1 (d :: inner) members behind) :
    Finds (valueReader limited (room + 1)) 0 (CodePoint.ofChar '{' :: rest) (ofMembers members)
      behind := by
  have shorter := length_skipLayout_le rest
  have inside := found.shorter
  rw [skipped] at shorter
  refine .of_succ (by rw [List.length_cons]; omega) fun fuel enough => ?_
  rw [List.length_cons] at enough
  have noQuote : CodePoint.ofChar '{' ≠ CodePoint.ofChar '"' := by decide
  have noList : CodePoint.ofChar '{' ≠ CodePoint.ofChar '[' := by decide
  simp only [valueReader, readValue, noQuote, noList, skipped, filled, found.reads fuel (by omega),
    ↓reduceIte]

variable {item : Json}

theorem finds_lastItem (first : Finds (valueReader limited room) 0 source item after)
    (closed : skipLayout after = CodePoint.ofChar ']' :: rest) :
    Finds (itemReader limited room) 1 source [item] rest := by
  have inside := first.shorter
  have shorter := length_skipLayout_le after
  rw [closed, List.length_cons] at shorter
  refine .of_succ (by omega) fun fuel enough => ?_
  exact readItems_last (first.reads fuel (by omega)) closed

theorem finds_nextItem {items : List Json}
    (first : Finds (valueReader limited room) 0 source item after)
    (separated : skipLayout after = CodePoint.ofChar ',' :: rest)
    (others : Finds (itemReader limited room) 1 (skipLayout rest) items behind) :
    Finds (itemReader limited room) 1 source (item :: items) behind := by
  have inside := first.shorter
  have shorter := length_skipLayout_le after
  rw [separated, List.length_cons] at shorter
  have shorterRest := length_skipLayout_le rest
  have insideRest := others.shorter
  refine .of_succ (by omega) fun fuel enough => ?_
  exact readItems_next (first.reads fuel (by omega)) separated (others.reads fuel (by omega))

def NamesMember (source name beforeValue : Text) : Prop :=
  ∃ inner afterName, source = CodePoint.ofChar '"' :: inner
    ∧ readText source none inner = .ok (name, afterName)
    ∧ skipLayout afterName = CodePoint.ofChar ':' :: beforeValue ∧ afterName.length < inner.length

variable {name beforeValue : Text}

theorem NamesMember.length_lt (names : NamesMember source name beforeValue) :
    (skipLayout beforeValue).length + 2 < source.length := by
  obtain ⟨inner, afterName, rfl, _, colon, shorter⟩ := names
  have skipped := length_skipLayout_le afterName
  rw [colon, List.length_cons] at skipped
  have skippedAgain := length_skipLayout_le beforeValue
  rw [List.length_cons]
  omega

theorem finds_lastMember (names : NamesMember source name beforeValue)
    (first : Finds (valueReader limited room) 0 (skipLayout beforeValue) item after)
    (closed : skipLayout after = CodePoint.ofChar '}' :: rest) :
    Finds (memberReader limited room) 1 source [(name, item)] rest := by
  have inside := first.shorter
  have shorter := length_skipLayout_le after
  have front := names.length_lt
  rw [closed, List.length_cons] at shorter
  refine .of_succ (by omega) fun fuel enough => ?_
  have value := first.reads fuel (by omega)
  obtain ⟨inner, afterName, rfl, read, colon, _⟩ := names
  simp only [memberReader, readMembers, ne_eq, not_true_eq_false, ↓reduceIte, read, colon, value,
    closed]

theorem finds_nextMember {members : List (Text × Json)} (names : NamesMember source name beforeValue)
    (first : Finds (valueReader limited room) 0 (skipLayout beforeValue) item after)
    (separated : skipLayout after = CodePoint.ofChar ',' :: rest)
    (others : Finds (memberReader limited room) 1 (skipLayout rest) members behind) :
    Finds (memberReader limited room) 1 source ((name, item) :: members) behind := by
  have inside := first.shorter
  have shorter := length_skipLayout_le after
  have front := names.length_lt
  rw [separated, List.length_cons] at shorter
  have shorterRest := length_skipLayout_le rest
  have insideRest := others.shorter
  refine .of_succ (by omega) fun fuel enough => ?_
  have value := first.reads fuel (by omega)
  have next := others.reads fuel (by omega)
  have noClosing : CodePoint.ofChar ',' ≠ CodePoint.ofChar '}' := by decide
  obtain ⟨inner, afterName, rfl, read, colon, _⟩ := names
  simp only [memberReader, readMembers, ne_eq, not_true_eq_false, ↓reduceIte, read, colon, value,
    separated, noClosing, next]

end

/-! The same document is read from both texts. -/

section

variable {limited : Bool}

def ReadsValuesAlike (limited : Bool) (fuel : Nat) : Prop :=
  ∀ {room : Nat} {source other rest : Text} {value : Json}, SameLines source other →
    readValue limited fuel room source = .ok (value, rest) →
    ∃ behind, SameLines rest behind ∧ Finds (valueReader limited room) 0 other value behind

def ReadsItemsAlike (limited : Bool) (fuel : Nat) : Prop :=
  ∀ {room : Nat} {source other rest : Text} {items : List Json}, SameLines source other →
    readItems limited fuel room source = .ok (items, rest) →
    ∃ behind, SameLines rest behind ∧ Finds (itemReader limited room) 1 other items behind

def ReadsMembersAlike (limited : Bool) (fuel : Nat) : Prop :=
  ∀ {room : Nat} {source other rest : Text} {members : List (Text × Json)}, SameLines source other →
    readMembers limited fuel room source = .ok (members, rest) →
    ∃ behind, SameLines rest behind ∧ Finds (memberReader limited room) 1 other members behind

theorem isLineEnd_of_skipLayout {c : CodePoint} {rest : Text}
    (skipped : skipLayout source = c :: rest) :
    isLineEnd c = false := by
  have noLayout : isLayout c = false := by
    have stopped := List.head?_dropWhile_not isLayout source
    rw [show source.dropWhile isLayout = c :: rest from skipped] at stopped
    simpa using stopped
  exact not_lineEnd_of (fun c => isLayout c = false) (by decide) (by decide) noLayout

theorem exists_skipLayout_eq_cons (same : SameLines source other) {c : CodePoint} {rest : Text}
    (skipped : skipLayout source = c :: rest) :
    ∃ after, skipLayout other = c :: after ∧ SameLines rest after := by
  have sameSkipped := sameLines_skipLayout same
  rw [skipped] at sameSkipped
  exact sameSkipped.exists_of_cons (isLineEnd_of_skipLayout skipped)

theorem ReadsItemsAlike.succ {fuel : Nat} (values : ReadsValuesAlike limited fuel)
    (items : ReadsItemsAlike limited fuel) : ReadsItemsAlike limited (fuel + 1) := by
  intro room source other rest found same read
  unfold readItems at read
  split at read
  · exact absurd read (by simp)
  next item after first =>
  obtain ⟨afterThere, sameAfter, firstThere⟩ := values same first
  split at read
  · exact absurd read (by simp)
  next c left skipped =>
  obtain ⟨leftThere, skippedThere, sameLeft⟩ := exists_skipLayout_eq_cons sameAfter skipped
  split at read
  · next closing =>
    subst closing
    obtain ⟨rfl, rfl⟩ := Prod.mk.inj (Except.ok.inj read)
    exact ⟨leftThere, sameLeft, finds_lastItem firstThere skippedThere⟩
  split at read
  · next comma =>
    subst comma
    split at read
    · exact absurd read (by simp)
    next others behind next =>
    obtain ⟨rfl, rfl⟩ := Prod.mk.inj (Except.ok.inj read)
    obtain ⟨behindThere, sameBehind, nextThere⟩ := items (sameLines_skipLayout sameLeft) next
    exact ⟨behindThere, sameBehind, finds_nextItem firstThere skippedThere nextThere⟩
  · exact absurd read (by simp)

theorem ReadsMembersAlike.succ {fuel : Nat} (values : ReadsValuesAlike limited fuel)
    (members : ReadsMembersAlike limited fuel) : ReadsMembersAlike limited (fuel + 1) := by
  intro room source other rest found same read
  unfold readMembers at read
  split at read
  · exact absurd read (by simp)
  next quote inner =>
  split at read
  · exact absurd read (by simp)
  next isQuote =>
  obtain rfl : quote = CodePoint.ofChar '"' := Decidable.not_not.mp isQuote
  obtain ⟨innerThere, rfl, sameInner⟩ := same.exists_of_cons (by decide)
  split at read
  · exact absurd read (by simp)
  next name afterName named =>
  obtain ⟨afterNameThere, namedThere, sameAfterName, shorter⟩ := readText_sameLines sameInner named
  split at read
  · exact absurd read (by simp)
  next colon beforeValue skipped =>
  split at read
  · exact absurd read (by simp)
  next isColon =>
  obtain rfl : colon = CodePoint.ofChar ':' := Decidable.not_not.mp isColon
  obtain ⟨beforeThere, colonThere, sameBefore⟩ := exists_skipLayout_eq_cons sameAfterName skipped
  have names : NamesMember (CodePoint.ofChar '"' :: innerThere) name beforeThere :=
    ⟨innerThere, afterNameThere, rfl, namedThere, colonThere, shorter⟩
  split at read
  · exact absurd read (by simp)
  next value after first =>
  obtain ⟨afterThere, sameAfter, firstThere⟩ := values (sameLines_skipLayout sameBefore) first
  split at read
  · exact absurd read (by simp)
  next c left skipped =>
  obtain ⟨leftThere, skippedThere, sameLeft⟩ := exists_skipLayout_eq_cons sameAfter skipped
  split at read
  · next closing =>
    subst closing
    obtain ⟨rfl, rfl⟩ := Prod.mk.inj (Except.ok.inj read)
    exact ⟨leftThere, sameLeft, finds_lastMember names firstThere skippedThere⟩
  split at read
  · next comma =>
    subst comma
    split at read
    · exact absurd read (by simp)
    next others behind next =>
    obtain ⟨rfl, rfl⟩ := Prod.mk.inj (Except.ok.inj read)
    obtain ⟨behindThere, sameBehind, nextThere⟩ := members (sameLines_skipLayout sameLeft) next
    exact ⟨behindThere, sameBehind, finds_nextMember names firstThere skippedThere nextThere⟩
  · exact absurd read (by simp)

theorem ReadsItemsAlike.exists_finds_list {fuel room : Nat} (alike : ReadsItemsAlike limited fuel)
    {inner innerThere left rest : Text} {d : CodePoint} {items : List Json}
    (same : SameLines inner innerThere) (skipped : skipLayout inner = d :: left)
    (filled : d ≠ CodePoint.ofChar ']')
    (listed : readItems limited fuel room (d :: left) = .ok (items, rest)) :
    ∃ behind, SameLines rest behind
      ∧ Finds (valueReader limited (room + 1)) 0 (CodePoint.ofChar '[' :: innerThere) (.list items)
        behind := by
  obtain ⟨leftThere, skippedThere, sameLeft⟩ := exists_skipLayout_eq_cons same skipped
  obtain ⟨behind, sameBehind, listedThere⟩ :=
    alike ((SameLines.cons_iff (isLineEnd_of_skipLayout skipped)).mpr sameLeft) listed
  exact ⟨behind, sameBehind, finds_list skippedThere filled listedThere⟩

theorem ReadsMembersAlike.exists_finds_object {fuel room : Nat}
    (alike : ReadsMembersAlike limited fuel) {inner innerThere left rest : Text} {d : CodePoint}
    {members : List (Text × Json)} (same : SameLines inner innerThere)
    (skipped : skipLayout inner = d :: left) (filled : d ≠ CodePoint.ofChar '}')
    (listed : readMembers limited fuel room (d :: left) = .ok (members, rest)) :
    ∃ behind, SameLines rest behind
      ∧ Finds (valueReader limited (room + 1)) 0 (CodePoint.ofChar '{' :: innerThere)
        (ofMembers members) behind := by
  obtain ⟨leftThere, skippedThere, sameLeft⟩ := exists_skipLayout_eq_cons same skipped
  obtain ⟨behind, sameBehind, listedThere⟩ :=
    alike ((SameLines.cons_iff (isLineEnd_of_skipLayout skipped)).mpr sameLeft) listed
  exact ⟨behind, sameBehind, finds_object skippedThere filled listedThere⟩

theorem exists_finds_scalar {room : Nat} {c : CodePoint} {inner rest : Text} {value : Json}
    (same : SameLines (c :: inner) other) (noQuote : c ≠ CodePoint.ofChar '"')
    (noList : c ≠ CodePoint.ofChar '[') (noObject : c ≠ CodePoint.ofChar '{')
    (read : readWord? (c :: inner) = some (value, rest)
      ∨ (readWord? (c :: inner) = none ∧ readNumber limited (c :: inner) = .ok (value, rest))) :
    ∃ behind, SameLines rest behind ∧ Finds (valueReader limited room) 0 other value behind := by
  obtain ⟨behind, sameBehind, shorter, there⟩ :
      ∃ behind, SameLines rest behind ∧ behind.length < other.length
        ∧ (readWord? other = some (value, behind)
          ∨ (readWord? other = none ∧ readNumber limited other = .ok (value, behind))) := by
    rcases SameFound.cases (readWord?_sameLines same) with
      ⟨noWord, noWordThere⟩ | ⟨word, left, behind, here, there, sameBehind⟩
    · obtain ⟨_, number⟩ := read.resolve_left fun word => by simp [noWord] at word
      obtain ⟨behind, there, sameBehind⟩ := readNumber_sameLines same number
      exact ⟨behind, sameBehind, length_lt_of_readNumber there, Or.inr ⟨noWordThere, there⟩⟩
    · have found := read.resolve_right fun none => by simp [here] at none
      obtain ⟨rfl, rfl⟩ := Prod.mk.inj (Option.some.inj (here.symm.trans found))
      exact ⟨behind, sameBehind, length_lt_of_readWord there, Or.inl there⟩
  refine ⟨behind, sameBehind, ?_⟩
  rcases same.cases with ⟨nothing, _⟩ | ⟨_, _, after, found, rfl, _, _⟩
    | ⟨_, d, _, after, _, rfl, _, endsThere⟩
  · exact absurd nothing (by simp)
  · obtain ⟨rfl, _⟩ := List.cons.inj found
    exact finds_scalar shorter noQuote noList noObject there
  · exact finds_scalar shorter (ne_of_isLineEnd endsThere (by decide))
      (ne_of_isLineEnd endsThere (by decide)) (ne_of_isLineEnd endsThere (by decide)) there

theorem ReadsValuesAlike.succ {fuel : Nat} (items : ReadsItemsAlike limited fuel)
    (members : ReadsMembersAlike limited fuel) : ReadsValuesAlike limited (fuel + 1) := by
  intro room source other rest found same read
  unfold readValue at read
  split at read
  · exact absurd read (by simp)
  next c inner =>
  split at read
  · next isQuote =>
    subst isQuote
    obtain ⟨innerThere, rfl, sameInner⟩ := same.exists_of_cons (by decide)
    split at read
    · exact absurd read (by simp)
    next content after quoted =>
    obtain ⟨rfl, rfl⟩ := Prod.mk.inj (Except.ok.inj read)
    obtain ⟨behind, quotedThere, sameBehind, shorter⟩ := readText_sameLines sameInner quoted
    exact ⟨behind, sameBehind, finds_text shorter quotedThere⟩
  next noQuote =>
  split at read
  · next isList =>
    subst isList
    obtain ⟨innerThere, rfl, sameInner⟩ := same.exists_of_cons (by decide)
    split at read
    · exact absurd read (by simp)
    · exact absurd read (by simp)
    next room d left skipped =>
    split at read
    · next closing =>
      subst closing
      obtain ⟨rfl, rfl⟩ := Prod.mk.inj (Except.ok.inj read)
      obtain ⟨leftThere, skippedThere, sameLeft⟩ := exists_skipLayout_eq_cons sameInner skipped
      exact ⟨leftThere, sameLeft, finds_emptyList skippedThere⟩
    next filled =>
    split at read
    · exact absurd read (by simp)
    next inside after listed =>
    obtain ⟨rfl, rfl⟩ := Prod.mk.inj (Except.ok.inj read)
    exact items.exists_finds_list sameInner skipped filled listed
  next noList =>
  split at read
  · next isObject =>
    subst isObject
    obtain ⟨innerThere, rfl, sameInner⟩ := same.exists_of_cons (by decide)
    split at read
    · exact absurd read (by simp)
    · exact absurd read (by simp)
    next room d left skipped =>
    split at read
    · next closing =>
      subst closing
      obtain ⟨rfl, rfl⟩ := Prod.mk.inj (Except.ok.inj read)
      obtain ⟨leftThere, skippedThere, sameLeft⟩ := exists_skipLayout_eq_cons sameInner skipped
      exact ⟨leftThere, sameLeft, finds_emptyObject skippedThere⟩
    next filled =>
    split at read
    · exact absurd read (by simp)
    next inside after listed =>
    obtain ⟨rfl, rfl⟩ := Prod.mk.inj (Except.ok.inj read)
    exact members.exists_finds_object sameInner skipped filled listed
  next noObject =>
  apply exists_finds_scalar same noQuote noList noObject
  split at read
  · next word => exact Or.inl (word.trans (congrArg some (Except.ok.inj read)))
  · next noWord => exact Or.inr ⟨noWord, read⟩

end

end Json
end ClusterTopology
