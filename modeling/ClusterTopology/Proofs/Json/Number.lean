import ClusterTopology.Json.Reader
import ClusterTopology.Json.Writer

/-!
Integers read back from their digits. What follows an integer in a document that is laid out in
lines is no part of a number, and no word that stands for a value begins like an integer.
-/

namespace ClusterTopology

namespace Text

theorem ofNat_eq_append {n : Nat} (large : 10 ≤ n) :
    ofNat n = ofNat (n / 10) ++ [CodePoint.ofChar (Nat.digitChar (n % 10))] := by
  unfold ofNat ofChars
  rw [Nat.toDigits_of_base_le (by omega) large, List.map_append, List.map_singleton]

theorem ofNat_ne_nil (n : Nat) : ofNat n ≠ [] := by
  simp [ofNat, ofChars, Nat.toDigits_ne_nil]

theorem isDigit_of_mem_ofNat {n : Nat} {c : CodePoint} (member : c ∈ ofNat n) :
    Json.isDigit c = true := by
  obtain ⟨digit, listed, rfl⟩ := List.mem_map.mp member
  have isDigit := Nat.isDigit_of_mem_toDigits (by omega) (by omega) listed
  simp only [Char.isDigit, Bool.and_eq_true, decide_eq_true_eq, UInt32.le_iff_toNat_le] at isDigit
  have between : 48 ≤ digit.toNat ∧ digit.toNat ≤ 57 := isDigit
  exact Bool.and_eq_true_iff.mpr ⟨decide_eq_true between.1, decide_eq_true between.2⟩

theorem head?_ofNat {n : Nat} (positive : 0 < n) :
    (ofNat n).head? ≠ some (CodePoint.ofChar '0') := by
  induction n using Nat.strongRecOn with
  | ind n ih =>
    by_cases small : n < 10
    · have each : ∀ digit : Fin 10, 0 < digit.val →
          (ofNat digit.val).head? ≠ some (CodePoint.ofChar '0') := by decide
      exact each ⟨n, small⟩ positive
    · have front := ih (n / 10) (by omega) (by omega)
      rw [ofNat_eq_append (by omega)]
      cases digits : ofNat (n / 10) with
      | nil => exact absurd digits (ofNat_ne_nil _)
      | cons first more =>
        rw [digits] at front
        exact front

theorem digitsValue_ofNat (n : Nat) : Json.digitsValue (ofNat n) = n := by
  have folded : Json.digitsValue (ofNat n) = Nat.ofDigitChars 10 (Nat.toDigits 10 n) 0 := by
    unfold Json.digitsValue valueOfDigits ofNat ofChars Nat.ofDigitChars
    rw [List.map_map, List.foldl_map]
    rfl
  rw [folded, Nat.ofDigitChars_ten_toDigits]

end Text

namespace Json

/-- What may follow a value in a document that is laid out in lines. -/
def EndsValue (rest : Text) : Prop :=
  ∃ c tail, rest = c :: tail ∧ (c = CodePoint.ofChar ',' ∨ c = CodePoint.ofChar '\n')

theorem EndsValue.eq_cons {rest : Text} (ends : EndsValue rest) :
    ∃ c tail, rest = c :: tail ∧ isDigit c = false ∧ c ≠ CodePoint.ofChar '.'
      ∧ c ≠ CodePoint.ofChar 'e' ∧ c ≠ CodePoint.ofChar 'E' := by
  obtain ⟨c, tail, rfl, rfl | rfl⟩ := ends
  · exact ⟨_, tail, rfl, by decide⟩
  · exact ⟨_, tail, rfl, by decide⟩

theorem takeFraction_of_ends {rest : Text} (ends : EndsValue rest) : takeFraction rest = none := by
  obtain ⟨c, tail, rfl, _, noPoint, _⟩ := ends.eq_cons
  simp [takeFraction, noPoint]

theorem takeExponent_of_ends {rest : Text} (ends : EndsValue rest) : takeExponent rest = none := by
  obtain ⟨c, tail, rfl, _, _, noMark, noCapital⟩ := ends.eq_cons
  simp [takeExponent, noMark, noCapital]

theorem takeWhole_ofNat (n : Nat) {rest : Text} (ends : EndsValue rest) :
    takeWhole (Text.ofNat n ++ rest) = some (Text.ofNat n, rest) := by
  obtain ⟨c, tail, rfl, notDigit, _⟩ := ends.eq_cons
  have digits : ∀ d ∈ Text.ofNat n, isDigit d = true := fun d => Text.isDigit_of_mem_ofNat
  have taken : (Text.ofNat n ++ c :: tail).takeWhile isDigit = Text.ofNat n := by
    rw [List.takeWhile_append_of_pos digits, List.takeWhile_cons_of_neg (by simp [notDigit]),
      List.append_nil]
  have left : (Text.ofNat n ++ c :: tail).dropWhile isDigit = c :: tail := by
    rw [List.dropWhile_append_of_pos digits, List.dropWhile_cons_of_neg (by simp [notDigit])]
  by_cases zero : n = 0
  · subst zero
    rfl
  · have noZero := Text.head?_ofNat (Nat.pos_of_ne_zero zero)
    cases written : Text.ofNat n with
    | nil => exact absurd written (Text.ofNat_ne_nil n)
    | cons first more =>
      rw [written] at noZero taken left digits
      have notZero : first ≠ CodePoint.ofChar '0' := by simpa using noZero
      have isFirst : isDigit first = true := digits first List.mem_cons_self
      rw [List.cons_append] at taken left ⊢
      simp only [takeWhole, notZero, isFirst, taken, left, ↓reduceIte]

theorem readNumber_ofInt {limited : Bool} {value : Int} {rest : Text}
    (few : limited = true → (Text.ofNat value.natAbs).length ≤ Text.digitLimit)
    (ends : EndsValue rest) :
    readNumber limited (Text.ofInt value ++ rest) = .ok (.int value, rest) := by
  have within : ¬(limited && Text.digitLimit < (Text.ofNat value.natAbs).length) = true := by
    simpa using few
  cases value with
  | negSucc n =>
    have whole := takeWhole_ofNat (n + 1) ends
    have written : Text.ofInt (.negSucc n) ++ rest =
        CodePoint.ofChar '-' :: (Text.ofNat (n + 1) ++ rest) := rfl
    have magnitude : (Int.negSucc n).natAbs = n + 1 := rfl
    rw [magnitude] at within
    rw [written]
    simp only [readNumber, whole, takeFraction_of_ends ends, takeExponent_of_ends ends, within,
      Text.digitsValue_ofNat, ↓reduceIte]
    rfl
  | ofNat n =>
    have whole := takeWhole_ofNat n ends
    have written : Text.ofInt (.ofNat n) ++ rest = Text.ofNat n ++ rest := rfl
    have magnitude : (Int.ofNat n).natAbs = n := rfl
    rw [magnitude] at within
    rw [written]
    cases digits : Text.ofNat n with
    | nil => exact absurd digits (Text.ofNat_ne_nil n)
    | cons first more =>
      have isFirst : isDigit first = true :=
        Text.isDigit_of_mem_ofNat (digits ▸ List.mem_cons_self)
      have noSign : first ≠ CodePoint.ofChar '-' := by
        rintro rfl
        exact absurd isFirst (by decide)
      have magnitudeOf : digitsValue (first :: more) = n := digits ▸ Text.digitsValue_ofNat n
      rw [digits] at whole within
      simp only [List.cons_append] at whole ⊢
      simp only [readNumber, noSign, whole, takeFraction_of_ends ends, takeExponent_of_ends ends,
        within, magnitudeOf, Bool.false_eq_true, ↓reduceIte]
      rfl

theorem readWord?_of_digit {c : CodePoint} (digit : isDigit c = true) (rest : Text) :
    readWord? (c :: rest) = none := by
  have others : ∀ entry ∈ words, entry.1.head?.any fun first => !isDigit first := by decide
  unfold readWord?
  rw [List.findSome?_eq_none_iff]
  rintro ⟨word, value⟩ member
  have other := others _ member
  cases word with
  | nil => exact absurd other (by simp)
  | cons first more =>
    have different : first ≠ c := by
      rintro rfl
      simp [digit] at other
    simp [List.isPrefixOf, different]

theorem readWord?_of_negative {c : CodePoint} (digit : isDigit c = true) (rest : Text) :
    readWord? (CodePoint.ofChar '-' :: c :: rest) = none := by
  have others : ∀ entry ∈ words, entry.1[1]?.any fun second => !isDigit second := by decide
  unfold readWord?
  rw [List.findSome?_eq_none_iff]
  rintro ⟨word, value⟩ member
  have other := others _ member
  match word with
  | [] => exact absurd other (by simp)
  | [first] => exact absurd other (by simp)
  | first :: second :: more =>
    have different : second ≠ c := by
      rintro rfl
      simp [digit] at other
    simp [List.isPrefixOf, different]

end Json
end ClusterTopology
