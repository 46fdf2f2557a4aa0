import ClusterTopology.Json.Reader
import ClusterTopology.Json.Writer
import ClusterTopology.Proofs.Text.Plain

/-!
Texts read back from between their quotes. Every code point is read back as it was written, except
that two halves of a surrogate pair that stand together become the code point that they spell.
-/

namespace ClusterTopology

/-- A text as it is read back: two halves of a surrogate pair that stand together become the code
point that they spell. -/
def Text.paired : Text → Text
  | high :: low :: rest =>
    if Json.isHighSurrogate high.val && Json.isLowSurrogate low.val then
      Fin.ofNat _ (Json.joinSurrogates high.val low.val) :: paired rest
    else high :: paired (low :: rest)
  | short => short

theorem Text.paired_cons_of_not_high {c : CodePoint} (noHigh : Json.isHighSurrogate c.val = false)
    (rest : Text) : paired (c :: rest) = c :: paired rest := by
  cases rest with
  | nil => rfl
  | cons next rest => simp [paired, noHigh]

theorem Text.paired_cons_of_not_low (high : CodePoint) {c : CodePoint}
    (noLow : Json.isLowSurrogate c.val = false) (rest : Text) :
    paired (high :: c :: rest) = high :: paired (c :: rest) := by
  simp [paired, noLow]

theorem Text.paired_cons_of_pair {high low : CodePoint}
    (first : Json.isHighSurrogate high.val = true) (second : Json.isLowSurrogate low.val = true)
    (rest : Text) :
    paired (high :: low :: rest) =
      Fin.ofNat _ (Json.joinSurrogates high.val low.val) :: paired rest := by
  simp [paired, first, second]

theorem Json.hexValue?_hexDigit (value : Nat) (small : value < 16) :
    Json.hexValue? (Text.hexDigit value) = some value := by
  have each : ∀ digit : Fin 16, Json.hexValue? (Text.hexDigit digit.val) = some digit.val := by decide
  exact each ⟨value, small⟩

theorem Text.ofHex_four (unit : Nat) :
    Text.ofHex 4 unit = [Text.hexDigit (unit / 16 / 16 / 16 % 16), Text.hexDigit (unit / 16 / 16 % 16),
      Text.hexDigit (unit / 16 % 16), Text.hexDigit (unit % 16)] := rfl

theorem Json.codeUnit?_hexDigits (unit : Nat) (small : unit < 0x10000) :
    Json.codeUnit? (Text.hexDigit (unit / 16 / 16 / 16 % 16)) (Text.hexDigit (unit / 16 / 16 % 16))
      (Text.hexDigit (unit / 16 % 16)) (Text.hexDigit (unit % 16)) = some unit := by
  have below : ∀ value : Nat, value % 16 < 16 := fun value => Nat.mod_lt value (by omega)
  have digits : 4096 * (unit / 16 / 16 / 16 % 16) + 256 * (unit / 16 / 16 % 16) + 16 * (unit / 16 % 16)
      + unit % 16 = unit := by omega
  simp only [codeUnit?, hexValue?_hexDigit _ (below _), bind, Option.bind, pure, digits]

namespace Json

variable {opening rest : Text}

theorem consHigh_some (high : CodePoint) (reading : Reading Text) :
    Reading.consHigh (some high.val) reading = reading.cons high := by
  have same : Fin.ofNat 0x110000 high.val = high := Fin.ext (Nat.mod_eq_of_lt high.isLt)
  simp only [Reading.consHigh, same]

theorem isLowSurrogate_of_isHighSurrogate {unit : Nat} (high : isHighSurrogate unit = true) :
    isLowSurrogate unit = false := by
  simp only [isHighSurrogate, Bool.and_eq_true, decide_eq_true_eq] at high
  simp only [isLowSurrogate, Bool.and_eq_false_iff, decide_eq_false_iff_not]
  omega

theorem readText_quote (high : Option Nat) :
    readText opening high (CodePoint.ofChar '"' :: rest) = Reading.consHigh high (.ok ([], rest)) := by
  rw [readText.eq_def]
  simp only [↓reduceIte]

theorem readText_escape (high : Option Nat) {e meant : CodePoint} (simple : simpleEscape? e = some meant)
    (notUnit : e ≠ CodePoint.ofChar 'u') :
    readText opening high (CodePoint.ofChar '\\' :: e :: rest) =
      ((readText opening none rest).cons meant).consHigh high := by
  rw [readText.eq_def]
  simp only [notUnit, simple, ne_eq, not_false_eq_true, ↓reduceIte]
  rfl

theorem readText_codeUnit (high : Option Nat) {a b c d : CodePoint} {unit : Nat}
    (digits : codeUnit? a b c d = some unit) (more : rest ≠ []) :
    readText opening high (CodePoint.ofChar '\\' :: CodePoint.ofChar 'u' :: a :: b :: c :: d :: rest) =
      if isHighSurrogate unit then (readText opening (some unit) rest).consHigh high
      else match high, isLowSurrogate unit with
        | some first, true =>
          (readText opening none rest).cons (Fin.ofNat _ (joinSurrogates first unit))
        | _, _ => ((readText opening none rest).cons (Fin.ofNat _ unit)).consHigh high := by
  have nonempty : rest.isEmpty = false := by simpa using more
  rw [readText.eq_def]
  simp only [digits, nonempty]
  rfl

theorem readText_unitEscape (high : Option Nat) {unit : Nat} (small : unit < 0x10000)
    (more : rest ≠ []) :
    readText opening high (CodePoint.unitEscape unit ++ rest) =
      if isHighSurrogate unit then (readText opening (some unit) rest).consHigh high
      else match high, isLowSurrogate unit with
        | some first, true =>
          (readText opening none rest).cons (Fin.ofNat _ (joinSurrogates first unit))
        | _, _ => ((readText opening none rest).cons (Fin.ofNat _ unit)).consHigh high := by
  unfold CodePoint.unitEscape
  rw [Text.ofHex_four]
  exact readText_codeUnit high (codeUnit?_hexDigits unit small) more

theorem readText_plain (high : Option Nat) {c : CodePoint} (printable : 0x20 ≤ c.val)
    (noQuote : c ≠ CodePoint.ofChar '"') (noEscape : c ≠ CodePoint.ofChar '\\') :
    readText opening high (c :: rest) = ((readText opening none rest).cons c).consHigh high := by
  rw [readText.eq_def]
  simp only [noQuote, noEscape, Nat.not_lt.mpr printable, ne_eq, not_false_eq_true, ↓reduceIte]

theorem joinSurrogates_halves {n : Nat} (large : 0x10000 ≤ n) :
    joinSurrogates (0xd800 + (n - 0x10000) / 0x400) (0xdc00 + n % 0x400) = n := by
  unfold joinSurrogates
  omega

theorem ofNat_joinSurrogates_halves {c : CodePoint} (large : 0x10000 ≤ c.val) :
    Fin.ofNat 0x110000 (joinSurrogates (0xd800 + (c.val - 0x10000) / 0x400) (0xdc00 + c.val % 0x400))
      = c := by
  rw [joinSurrogates_halves large]
  exact Fin.ext (Nat.mod_eq_of_lt c.isLt)

/-- The four ways to write a code point: with an escape of one character, as itself, with the escape
of its code unit, or with those of its two halves. -/
theorem written_cases (c : CodePoint) :
    (∃ e : CodePoint, c.written = [CodePoint.ofChar '\\', e] ∧ simpleEscape? e = some c
        ∧ e ≠ CodePoint.ofChar 'u' ∧ e.isPlain = true)
      ∨ (c.written = [c] ∧ 0x20 ≤ c.val ∧ c.val ≤ 0x7e ∧ c ≠ CodePoint.ofChar '"'
        ∧ c ≠ CodePoint.ofChar '\\')
      ∨ (c.written = CodePoint.unitEscape c.val ∧ c.val < 0x10000)
      ∨ (c.written = CodePoint.unitEscape (0xd800 + (c.val - 0x10000) / 0x400)
        ++ CodePoint.unitEscape (0xdc00 + c.val % 0x400) ∧ 0x10000 ≤ c.val) := by
  unfold CodePoint.written
  split
  · next same => exact Or.inl ⟨_, rfl, by subst same; decide, by decide, by decide⟩
  split
  · next same => exact Or.inl ⟨_, rfl, by subst same; decide, by decide, by decide⟩
  split
  · next same => exact Or.inl ⟨_, rfl, by subst same; decide, by decide, by decide⟩
  split
  · next same => exact Or.inl ⟨_, rfl, by subst same; decide, by decide, by decide⟩
  split
  · next same => exact Or.inl ⟨_, rfl, by subst same; decide, by decide, by decide⟩
  split
  · next same =>
    obtain rfl : c = 12 := Fin.ext same
    exact Or.inl ⟨_, rfl, by decide⟩
  split
  · next same =>
    obtain rfl : c = 8 := Fin.ext same
    exact Or.inl ⟨_, rfl, by decide⟩
  split
  · next noQuote noEscape _ _ _ _ _ printable =>
    simp only [Bool.and_eq_true, decide_eq_true_eq] at printable
    exact Or.inr (Or.inl ⟨rfl, printable.1, printable.2, noQuote, noEscape⟩)
  split
  · next small => exact Or.inr (Or.inr (Or.inl ⟨rfl, small⟩))
  · next large => exact Or.inr (Or.inr (Or.inr ⟨rfl, Nat.not_lt.mp large⟩))

theorem readText_written (high : Option Nat) {c : CodePoint} (noHigh : isHighSurrogate c.val = false)
    (alone : isLowSurrogate c.val = false ∨ high = none) (more : rest ≠ []) :
    readText opening high (c.written ++ rest) =
      ((readText opening none rest).cons c).consHigh high := by
  rcases written_cases c with ⟨e, written, simple, notUnit, _⟩ | ⟨written, least, _, noQuote, noEscape⟩
    | ⟨written, small⟩ | ⟨written, large⟩
  · rw [written]
    exact readText_escape high simple notUnit
  · rw [written]
    exact readText_plain high least noQuote noEscape
  · rw [written, readText_unitEscape high small more, noHigh]
    rcases alone with noLow | rfl
    · rw [noLow]
      cases high <;> simp
    · simp
  · have bounded := c.isLt
    have highHalf : isHighSurrogate (0xd800 + (c.val - 0x10000) / 0x400) = true := by
      simp only [isHighSurrogate, Bool.and_eq_true, decide_eq_true_eq]
      omega
    have lowHalf : isLowSurrogate (0xdc00 + c.val % 0x400) = true := by
      simp only [isLowSurrogate, Bool.and_eq_true, decide_eq_true_eq]
      omega
    have notHigh : isHighSurrogate (0xdc00 + c.val % 0x400) = false := by
      simp only [isHighSurrogate, Bool.and_eq_false_iff, decide_eq_false_iff_not]
      omega
    have joined := ofNat_joinSurrogates_halves large
    have highSmall : 0xd800 + (c.val - 0x10000) / 0x400 < 0x10000 := by omega
    have lowSmall : 0xdc00 + c.val % 0x400 < 0x10000 := by omega
    have followed : CodePoint.unitEscape (0xdc00 + c.val % 0x400) ++ rest ≠ [] := by simp [more]
    rw [written, List.append_assoc, readText_unitEscape high highSmall followed, if_pos highHalf,
      readText_unitEscape _ lowSmall more, notHigh, lowHalf]
    simp only [Bool.false_eq_true, ↓reduceIte, joined]

theorem written_of_half {c : CodePoint} (least : 0xd800 ≤ c.val)
    (most : c.val ≤ 0xdfff) : c.written = CodePoint.unitEscape c.val := by
  have other : ∀ d : CodePoint, d.val < 0x80 → c ≠ d := by
    rintro d small rfl
    omega
  have beyond : ¬(decide (0x20 ≤ c.val) && decide (c.val ≤ 0x7e)) = true := by
    simp only [Bool.and_eq_true, decide_eq_true_eq]
    omega
  have notFeed : c.val ≠ 12 := by omega
  have notBack : c.val ≠ 8 := by omega
  have small : c.val < 0x10000 := by omega
  rw [CodePoint.written, if_neg (other '"' (by decide)), if_neg (other '\\' (by decide)),
    if_neg (other '\n' (by decide)), if_neg (other '\r' (by decide)),
    if_neg (other '\t' (by decide)), if_neg notFeed, if_neg notBack, if_neg beyond, if_pos small]

theorem readText_written_of_high (high : Option Nat) {c : CodePoint}
    (first : isHighSurrogate c.val = true) (more : rest ≠ []) :
    readText opening high (c.written ++ rest) =
      (readText opening (some c.val) rest).consHigh high := by
  have between : 0xd800 ≤ c.val ∧ c.val ≤ 0xdbff := by simpa [isHighSurrogate] using first
  rw [written_of_half between.1 (by omega), readText_unitEscape high (by omega) more,
    if_pos first]

theorem readText_written_of_low {high : Nat} {c : CodePoint} (second : isLowSurrogate c.val = true)
    (more : rest ≠ []) :
    readText opening (some high) (c.written ++ rest) =
      (readText opening none rest).cons (Fin.ofNat _ (joinSurrogates high c.val)) := by
  have between : 0xdc00 ≤ c.val ∧ c.val ≤ 0xdfff := by simpa [isLowSurrogate] using second
  have notHigh : isHighSurrogate c.val = false := by
    simp only [isHighSurrogate, Bool.and_eq_false_iff, decide_eq_false_iff_not]
    omega
  rw [written_of_half (by omega) between.2, readText_unitEscape _ (by omega) more, notHigh,
    second]
  rfl

theorem readText_flatMap_written (value : Text) :
    readText opening none (value.flatMap CodePoint.written ++ CodePoint.ofChar '"' :: rest) =
        .ok (value.paired, rest)
      ∧ ∀ high : CodePoint, isHighSurrogate high.val = true →
        readText opening (some high.val)
            (value.flatMap CodePoint.written ++ CodePoint.ofChar '"' :: rest) =
          .ok (Text.paired (high :: value), rest) := by
  induction value with
  | nil =>
    refine ⟨readText_quote none, fun high _ => ?_⟩
    rw [List.flatMap_nil, List.nil_append, readText_quote, consHigh_some]
    rfl
  | cons c value ih =>
    obtain ⟨plain, afterHigh⟩ := ih
    have more : value.flatMap CodePoint.written ++ CodePoint.ofChar '"' :: rest ≠ [] := by simp
    simp only [List.flatMap_cons, List.append_assoc]
    cases first : isHighSurrogate c.val with
    | true =>
      constructor
      · rw [readText_written_of_high none first more, afterHigh c first]
        rfl
      · intro high _
        rw [readText_written_of_high _ first more, afterHigh c first, consHigh_some,
          Text.paired_cons_of_not_low high (isLowSurrogate_of_isHighSurrogate first)]
        rfl
    | false =>
      constructor
      · rw [readText_written none first (Or.inr rfl) more, plain, Text.paired_cons_of_not_high first]
        rfl
      · intro high isHigh
        cases second : isLowSurrogate c.val with
        | true =>
          rw [readText_written_of_low second more, plain, Text.paired_cons_of_pair isHigh second]
          rfl
        | false =>
          rw [readText_written _ first (Or.inl second) more, plain, consHigh_some,
            Text.paired_cons_of_not_low high second, Text.paired_cons_of_not_high first]
          rfl

end Json
end ClusterTopology
