import ClusterTopology.Proofs.Json.Escape
import ClusterTopology.Proofs.Json.Number
import ClusterTopology.Proofs.Text.Plain

/-!
What it is to read a document back from its lines, and the scalars for which it is done: null, the
integers, and the texts. Their written forms are plain texts.
-/

namespace ClusterTopology.Json

theorem skipLayout_cons {c : CodePoint} (noLayout : isLayout c = false) (rest : Text) :
    skipLayout (c :: rest) = c :: rest := by
  simp [skipLayout, noLayout]

theorem skipLayout_lineBreak (depth : Nat) (rest : Text) :
    skipLayout (lineBreak depth ++ rest) = skipLayout rest := by
  have blank : ∀ c ∈ lineBreak depth, isLayout c = true := by
    intro c member
    simp only [lineBreak, List.mem_cons, List.mem_replicate] at member
    rcases member with rfl | ⟨_, rfl⟩ <;> decide
  exact List.dropWhile_append_of_pos blank

theorem endsValue_comma (rest : Text) : EndsValue (CodePoint.ofChar ',' :: rest) :=
  ⟨_, rest, rfl, Or.inl rfl⟩

theorem endsValue_lineBreak (depth : Nat) (rest : Text) : EndsValue (lineBreak depth ++ rest) :=
  ⟨_, _, rfl, Or.inr rfl⟩

/-- Reading the lines of a document gives another one, at whatever depth they stand and whatever
follows them. -/
structure ReadsAs (limited : Bool) (document : Json) (room : Nat) (read : Json) : Prop where
  begins : ∀ depth, ∃ c more, document.writeLines depth = c :: more ∧ isLayout c = false
    ∧ c ≠ CodePoint.ofChar ']'
  plain : ∀ depth, (document.writeLines depth).all CodePoint.isPlain = true
  reads : ∀ depth fuel rest, 2 * (document.writeLines depth).length ≤ fuel → EndsValue rest →
    readValue limited fuel room (document.writeLines depth ++ rest) = .ok (read, rest)

theorem ReadsAs.skipLayout_writeLines {limited : Bool} {document read : Json} {room : Nat}
    (reads : ReadsAs limited document room read) (depth : Nat) (rest : Text) :
    skipLayout (document.writeLines depth ++ rest) = document.writeLines depth ++ rest := by
  obtain ⟨c, more, written, noLayout, _⟩ := reads.begins depth
  rw [written, List.cons_append, skipLayout_cons noLayout]

theorem readsAs_null (limited : Bool) (room : Nat) : ReadsAs limited .null room .null where
  begins _ := ⟨_, _, rfl, by decide, by decide⟩
  plain _ := by rfl
  reads depth fuel rest enough _ := by
    cases fuel with
    | zero => exact absurd enough (by simp [writeLines, writeScalar, Text.ofString, Text.ofChars])
    | succ fuel => rfl

theorem ne_of_isDigit {c d : CodePoint} (digit : isDigit c = true) (other : isDigit d = false) :
    c ≠ d := by
  rintro rfl
  rw [digit] at other
  exact absurd other (by simp)

theorem isPlain_of_isDigit {c : CodePoint} (digit : isDigit c = true) :
    CodePoint.isPlain c = true := by
  have between : 48 ≤ c.val ∧ c.val ≤ 57 := by simpa [isDigit] using digit
  have noReturn : c ≠ CodePoint.ofChar '\r' := ne_of_isDigit digit (by decide)
  exact CodePoint.isPlain_iff.mpr ⟨by omega, noReturn⟩

theorem exists_ofInt (value : Int) : ∃ c more, Text.ofInt value = c :: more
    ∧ (isDigit c = true ∨ (c = CodePoint.ofChar '-' ∧ ∃ d rest, more = d :: rest ∧ isDigit d = true))
    ∧ more.all CodePoint.isPlain = true := by
  have digits : ∀ n : Nat, ∃ c more, Text.ofNat n = c :: more ∧ isDigit c = true
      ∧ more.all CodePoint.isPlain = true := by
    intro n
    cases written : Text.ofNat n with
    | nil => exact absurd written (Text.ofNat_ne_nil n)
    | cons c more =>
      have each : ∀ d ∈ c :: more, isDigit d = true := fun d member =>
        Text.isDigit_of_mem_ofNat (written ▸ member)
      refine ⟨c, more, rfl, each c List.mem_cons_self, List.all_eq_true.mpr fun d member => ?_⟩
      exact isPlain_of_isDigit (each d (List.mem_cons_of_mem _ member))
  cases value with
  | ofNat n =>
    obtain ⟨c, more, written, digit, plain⟩ := digits n
    exact ⟨c, more, written, Or.inl digit, plain⟩
  | negSucc n =>
    obtain ⟨c, more, written, digit, plain⟩ := digits (n + 1)
    refine ⟨_, c :: more, congrArg (CodePoint.ofChar '-' :: ·) written,
      Or.inr ⟨rfl, c, more, rfl, digit⟩, ?_⟩
    simp [isPlain_of_isDigit digit, plain]

theorem readsAs_int {limited : Bool} {value : Int} (room : Nat)
    (few : limited = true → (Text.ofNat value.natAbs).length ≤ Text.digitLimit) :
    ReadsAs limited (.int value) room (.int value) := by
  obtain ⟨c, more, written, starts, plain⟩ := exists_ofInt value
  have first : isLayout c = false ∧ CodePoint.isPlain c = true ∧ c ≠ CodePoint.ofChar ']'
      ∧ c ≠ CodePoint.ofChar '"' ∧ c ≠ CodePoint.ofChar '[' ∧ c ≠ CodePoint.ofChar '{' := by
    rcases starts with digit | ⟨rfl, _⟩
    · have others : ∀ d, isDigit d = false → c ≠ d := fun d => ne_of_isDigit digit
      refine ⟨?_, isPlain_of_isDigit digit, others _ (by decide), others _ (by decide),
        others _ (by decide), others _ (by decide)⟩
      simp [isLayout, others (CodePoint.ofChar ' ') (by decide),
        others (CodePoint.ofChar '\t') (by decide), others (CodePoint.ofChar '\n') (by decide),
        others (CodePoint.ofChar '\r') (by decide)]
    · decide
  have lines : ∀ depth, (Json.int value).writeLines depth = c :: more := by
    intro depth
    simpa only [writeLines, writeScalar] using written
  obtain ⟨noLayout, plainFirst, noClosing, noQuote, noList, noObject⟩ := first
  refine ⟨fun depth => ⟨c, more, lines depth, noLayout, noClosing⟩, fun depth => ?_, ?_⟩
  · simp [lines, plainFirst, plain]
  · intro depth fuel rest enough ends
    rw [lines] at enough ⊢
    have number := readNumber_ofInt few ends
    have noWord : readWord? (c :: (more ++ rest)) = none := by
      rcases starts with digit | ⟨rfl, d, behind, rfl, digit⟩
      · exact readWord?_of_digit digit _
      · exact readWord?_of_negative digit _
    rw [written] at number
    cases fuel with
    | zero => exact absurd enough (by simp)
    | succ fuel =>
      rw [List.cons_append] at number ⊢
      simp only [readValue, noQuote, noList, noObject, noWord, number, ↓reduceIte]

theorem all_isPlain_unitEscape (unit : Nat) :
    (CodePoint.unitEscape unit).all CodePoint.isPlain = true := by
  have each : ∀ digit : Fin 16, CodePoint.isPlain (Text.hexDigit digit.val) = true := by decide
  have plain : ∀ value : Nat, CodePoint.isPlain (Text.hexDigit (value % 16)) = true := fun value =>
    each ⟨value % 16, Nat.mod_lt _ (by omega)⟩
  have mark : (("\\u" : Text)).all CodePoint.isPlain = true := by decide
  simp only [CodePoint.unitEscape, Text.ofHex_four, List.all_append, mark, List.all_cons, plain,
    List.all_nil, Bool.and_self]

theorem all_isPlain_written (c : CodePoint) : c.written.all CodePoint.isPlain = true := by
  have mark : CodePoint.isPlain (CodePoint.ofChar '\\') = true := by decide
  rcases written_cases c with ⟨e, written, _, _, plain⟩ | ⟨written, least, most, _⟩ | ⟨written, _⟩
    | ⟨written, _⟩
  · simp [written, mark, plain]
  · have noReturn : c ≠ CodePoint.ofChar '\r' := by
      rintro rfl
      exact absurd least (by decide)
    simp [written, CodePoint.isPlain_iff.mpr ⟨by omega, noReturn⟩]
  · rw [written]
    exact all_isPlain_unitEscape _
  · rw [written, List.all_append, all_isPlain_unitEscape, all_isPlain_unitEscape]
    rfl

theorem all_isPlain_writeText (value : Text) : (writeText value).all CodePoint.isPlain = true := by
  have plain : (value.flatMap CodePoint.written).all CodePoint.isPlain = true := by
    rw [List.all_flatMap, List.all_eq_true]
    exact fun c _ => all_isPlain_written c
  have quote : CodePoint.isPlain (CodePoint.ofChar '"') = true := by decide
  simp [writeText, plain, quote]

theorem writeText_append (value rest : Text) :
    writeText value ++ rest = CodePoint.ofChar '"' ::
      (value.flatMap CodePoint.written ++ CodePoint.ofChar '"' :: rest) := by
  simp [writeText]

theorem readsAs_text (limited : Bool) (room : Nat) (value : Text) :
    ReadsAs limited (.text value) room (.text value.paired) := by
  have lines : ∀ depth, (Json.text value).writeLines depth = writeText value := by
    intro depth
    simp only [writeLines, writeScalar]
  refine ⟨fun depth => ⟨_, _, lines depth, by decide, by decide⟩, fun depth => ?_, ?_⟩
  · rw [lines]
    exact all_isPlain_writeText value
  · intro depth fuel rest enough _
    rw [lines] at enough ⊢
    cases fuel with
    | zero => exact absurd enough (by simp [writeText])
    | succ fuel =>
      rw [writeText_append]
      simp only [readValue, (readText_flatMap_written value).1, ↓reduceIte]

end ClusterTopology.Json
