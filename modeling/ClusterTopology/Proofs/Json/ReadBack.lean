import ClusterTopology.Proofs.Json.Scalars
import ClusterTopology.Proofs.Outcome

/-!
Documents read back from their lines. How a list or an object is read back follows from how each of
its items or members is, so the shape of a document is all that a proof about it goes through.
-/

namespace ClusterTopology.Json

/-! Lists. -/

theorem writeLines_list_cons (depth : Nat) (item : Json) (items : List Json) :
    (Json.list (item :: items)).writeLines depth =
      CodePoint.ofChar '[' :: (lineBreak (depth + 1) ++ (item.writeLines (depth + 1)
        ++ (itemLines depth items ++ (lineBreak depth ++ [CodePoint.ofChar ']'])))) := by
  simp only [writeLines, List.append_assoc]
  rfl

theorem itemLines_cons (depth : Nat) (item : Json) (items : List Json) :
    itemLines depth (item :: items) =
      CodePoint.ofChar ',' :: (lineBreak (depth + 1) ++ (item.writeLines (depth + 1)
        ++ itemLines depth items)) := by
  simp only [itemLines, List.append_assoc]
  rfl

theorem length_lineBreak (depth : Nat) : (lineBreak depth).length = 2 * depth + 1 := by
  simp [lineBreak]

section

variable {limited : Bool} {fuel room : Nat} {source after rest : Text} {value : Json}
  {items : List Json}

theorem readItems_last (first : readValue limited fuel room source = .ok (value, after))
    (closed : skipLayout after = CodePoint.ofChar ']' :: rest) :
    readItems limited (fuel + 1) room source = .ok ([value], rest) := by
  simp only [readItems, first, closed, ↓reduceIte]

theorem readItems_next (first : readValue limited fuel room source = .ok (value, after))
    (separated : skipLayout after = CodePoint.ofChar ',' :: rest) {behind : Text}
    (others : readItems limited fuel room (skipLayout rest) = .ok (items, behind)) :
    readItems limited (fuel + 1) room source = .ok (value :: items, behind) := by
  have noClosing : CodePoint.ofChar ',' ≠ CodePoint.ofChar ']' := by decide
  simp only [readItems, first, separated, noClosing, others, ↓reduceIte]

end

theorem readItems_itemLines {ι : Type} {valueOf readOf : ι → Json} {limited : Bool} {room : Nat}
    (depth : Nat) (rest : Text) (entries : List ι) (entry : ι)
    (each : ∀ given ∈ entry :: entries, ReadsAs limited (valueOf given) room (readOf given))
    (fuel : Nat)
    (enough : 2 * (((valueOf entry).writeLines (depth + 1)).length
      + (itemLines depth (entries.map valueOf)).length) + 2 ≤ fuel) :
    readItems limited fuel room ((valueOf entry).writeLines (depth + 1) ++ (itemLines depth
        (entries.map valueOf) ++ (lineBreak depth ++ CodePoint.ofChar ']' :: rest))) =
      .ok ((entry :: entries).map readOf, rest) := by
  obtain ⟨fuel, rfl⟩ : ∃ less, fuel = less + 1 := ⟨fuel - 1, by omega⟩
  induction entries generalizing entry fuel with
  | nil =>
    have first := (each entry List.mem_cons_self).reads (depth + 1) fuel
      (lineBreak depth ++ CodePoint.ofChar ']' :: rest) (by omega) (endsValue_lineBreak depth _)
    have closed : skipLayout (lineBreak depth ++ CodePoint.ofChar ']' :: rest) =
        CodePoint.ofChar ']' :: rest := by
      rw [skipLayout_lineBreak, skipLayout_cons (by decide)]
    exact readItems_last first closed
  | cons next entries ih =>
    rw [List.map_cons, itemLines_cons] at enough ⊢
    simp only [List.length_cons, List.length_append, length_lineBreak] at enough
    simp only [List.cons_append, List.append_assoc]
    have first := (each entry List.mem_cons_self).reads (depth + 1) fuel _ (by omega)
      (endsValue_comma (lineBreak (depth + 1) ++ ((valueOf next).writeLines (depth + 1)
        ++ (itemLines depth (entries.map valueOf)
          ++ (lineBreak depth ++ CodePoint.ofChar ']' :: rest)))))
    obtain ⟨fuel, rfl⟩ : ∃ less, fuel = less + 1 := ⟨fuel - 1, by omega⟩
    have others := ih next (fun given member => each given (List.mem_cons_of_mem _ member)) fuel
      (by omega)
    refine readItems_next first (skipLayout_cons (by decide) _) ?_
    rw [skipLayout_lineBreak, (each next (by simp)).skipLayout_writeLines, others]

theorem all_isPlain_lineBreak (depth : Nat) : (lineBreak depth).all CodePoint.isPlain = true := by
  have feed : CodePoint.isPlain (CodePoint.ofChar '\n') = true := by decide
  have blank : CodePoint.isPlain (CodePoint.ofChar ' ') = true := by decide
  simp [lineBreak, feed, blank]

theorem all_isPlain_itemLines {items : List Json}
    (each : ∀ item ∈ items, ∀ depth, (item.writeLines depth).all CodePoint.isPlain = true)
    (depth : Nat) : (itemLines depth items).all CodePoint.isPlain = true := by
  have comma : CodePoint.isPlain (CodePoint.ofChar ',') = true := by decide
  induction items with
  | nil => rfl
  | cons item items ih =>
    rw [itemLines_cons]
    simp only [List.all_cons, List.all_append, comma, all_isPlain_lineBreak,
      each item List.mem_cons_self,
      ih fun other member => each other (List.mem_cons_of_mem _ member), Bool.and_self]

theorem readsAs_list {ι : Type} {valueOf readOf : ι → Json} {limited : Bool} {room : Nat}
    {entries : List ι}
    (each : ∀ entry ∈ entries, ReadsAs limited (valueOf entry) room (readOf entry)) :
    ReadsAs limited (.list (entries.map valueOf)) (room + 1) (.list (entries.map readOf)) := by
  have opening : CodePoint.isPlain (CodePoint.ofChar '[') = true := by decide
  have closing : CodePoint.isPlain (CodePoint.ofChar ']') = true := by decide
  cases entries with
  | nil =>
    refine ⟨fun _ => ⟨_, _, rfl, by decide, by decide⟩, fun _ => by rfl, ?_⟩
    intro depth fuel rest enough _
    cases fuel with
    | zero => exact absurd enough (by simp [writeLines, writeScalar, Text.ofString, Text.ofChars])
    | succ fuel => rfl
  | cons entry entries =>
    have first := each entry List.mem_cons_self
    rw [List.map_cons]
    refine ⟨fun depth => ⟨_, _, writeLines_list_cons depth _ _, by decide, by decide⟩,
      fun depth => ?_, ?_⟩
    · have lines : (itemLines depth (entries.map valueOf)).all CodePoint.isPlain = true := by
        apply all_isPlain_itemLines
        intro item member
        obtain ⟨other, listed, rfl⟩ := List.mem_map.mp member
        exact (each other (List.mem_cons_of_mem _ listed)).plain
      rw [writeLines_list_cons]
      simp only [List.all_cons, List.all_append, opening, all_isPlain_lineBreak, first.plain, lines,
        closing, List.all_nil, Bool.and_self]
    · intro depth fuel rest enough _
      rw [writeLines_list_cons] at enough ⊢
      simp only [List.length_cons, List.length_append, length_lineBreak] at enough
      obtain ⟨fuel, rfl⟩ : ∃ less, fuel = less + 1 := ⟨fuel - 1, by omega⟩
      have inside := readItems_itemLines depth rest entries entry each fuel (by omega)
      have skipped := first.skipLayout_writeLines (depth + 1) (itemLines depth (entries.map valueOf)
        ++ (lineBreak depth ++ CodePoint.ofChar ']' :: rest))
      obtain ⟨c, more, written, _, noClosing⟩ := first.begins (depth + 1)
      simp only [List.cons_append, List.append_assoc, List.nil_append]
      rw [written, List.cons_append] at inside skipped ⊢
      have noQuote : CodePoint.ofChar '[' ≠ CodePoint.ofChar '"' := by decide
      simp only [readValue, noQuote, skipLayout_lineBreak, skipped, noClosing, inside, ↓reduceIte]

/-! Objects. -/

def memberText (depth : Nat) (member : Text × Json) : Text :=
  writeText member.1
    ++ CodePoint.ofChar ':' :: CodePoint.ofChar ' ' :: member.2.writeLines (depth + 1)

theorem writeLines_object_cons (depth : Nat) (member : Text × Json) (members : List (Text × Json)) :
    (Json.object (member :: members)).writeLines depth =
      CodePoint.ofChar '{' :: (lineBreak (depth + 1) ++ (memberText depth member
        ++ (memberLines depth members ++ (lineBreak depth ++ [CodePoint.ofChar '}'])))) := by
  obtain ⟨name, value⟩ := member
  simp only [writeLines, memberText, List.append_assoc]
  rfl

theorem memberLines_cons (depth : Nat) (member : Text × Json) (members : List (Text × Json)) :
    memberLines depth (member :: members) =
      CodePoint.ofChar ',' :: (lineBreak (depth + 1) ++ (memberText depth member
        ++ memberLines depth members)) := by
  obtain ⟨name, value⟩ := member
  simp only [memberLines, memberText, List.append_assoc]
  rfl

theorem skipLayout_colon (rest : Text) :
    skipLayout (CodePoint.ofChar ':' :: rest) = CodePoint.ofChar ':' :: rest :=
  skipLayout_cons (by decide) rest

theorem skipLayout_blank (rest : Text) :
    skipLayout (CodePoint.ofChar ' ' :: rest) = skipLayout rest := rfl

section

variable {limited : Bool} {fuel room depth : Nat} {member : Text × Json} {behind rest : Text}
  {value : Json} {members : List (Text × Json)}

theorem readMembers_last (reads : ReadsAs limited member.2 room value)
    (enough : 2 * (member.2.writeLines (depth + 1)).length ≤ fuel) (ends : EndsValue behind)
    (closed : skipLayout behind = CodePoint.ofChar '}' :: rest) :
    readMembers limited (fuel + 1) room (memberText depth member ++ behind) =
      .ok ([(member.1.paired, value)], rest) := by
  have first := reads.reads (depth + 1) fuel behind enough ends
  rw [memberText, List.append_assoc, writeText_append]
  simp only [readMembers, (readText_flatMap_written member.1).1, List.cons_append, skipLayout_colon,
    skipLayout_blank, reads.skipLayout_writeLines, first, closed, ne_eq,
    not_true_eq_false, ↓reduceIte]

theorem readMembers_next (reads : ReadsAs limited member.2 room value)
    (enough : 2 * (member.2.writeLines (depth + 1)).length ≤ fuel) (ends : EndsValue behind)
    (separated : skipLayout behind = CodePoint.ofChar ',' :: rest) {after : Text}
    (others : readMembers limited fuel room (skipLayout rest) = .ok (members, after)) :
    readMembers limited (fuel + 1) room (memberText depth member ++ behind) =
      .ok ((member.1.paired, value) :: members, after) := by
  have first := reads.reads (depth + 1) fuel behind enough ends
  have noClosing : CodePoint.ofChar ',' ≠ CodePoint.ofChar '}' := by decide
  rw [memberText, List.append_assoc, writeText_append]
  simp only [readMembers, (readText_flatMap_written member.1).1, List.cons_append, skipLayout_colon,
    skipLayout_blank, reads.skipLayout_writeLines, first, separated, noClosing, others, ne_eq,
    not_true_eq_false, ↓reduceIte]

end

theorem length_writeLines_lt_memberText (depth : Nat) (member : Text × Json) :
    (member.2.writeLines (depth + 1)).length + 2 ≤ (memberText depth member).length := by
  simp only [memberText, List.length_append, List.length_cons]
  omega

theorem skipLayout_memberText (depth : Nat) (member : Text × Json) (rest : Text) :
    skipLayout (memberText depth member ++ rest) = memberText depth member ++ rest := by
  rw [memberText, List.append_assoc, writeText_append, skipLayout_cons (by decide)]

theorem readMembers_memberLines {ι : Type} {memberOf : ι → Text × Json} {readOf : ι → Json}
    {limited : Bool} {room : Nat} (depth : Nat) (rest : Text) (entries : List ι) (entry : ι)
    (each : ∀ given ∈ entry :: entries, ReadsAs limited (memberOf given).2 room (readOf given))
    (fuel : Nat)
    (enough : 2 * ((memberText depth (memberOf entry)).length
      + (memberLines depth (entries.map memberOf)).length) + 2 ≤ fuel) :
    readMembers limited fuel room (memberText depth (memberOf entry) ++ (memberLines depth
        (entries.map memberOf) ++ (lineBreak depth ++ CodePoint.ofChar '}' :: rest))) =
      .ok ((entry :: entries).map fun given => ((memberOf given).1.paired, readOf given), rest) := by
  obtain ⟨fuel, rfl⟩ : ∃ less, fuel = less + 1 := ⟨fuel - 1, by omega⟩
  induction entries generalizing entry fuel with
  | nil =>
    have shorter := length_writeLines_lt_memberText depth (memberOf entry)
    have closed : skipLayout (lineBreak depth ++ CodePoint.ofChar '}' :: rest) =
        CodePoint.ofChar '}' :: rest := by
      rw [skipLayout_lineBreak, skipLayout_cons (by decide)]
    exact readMembers_last (each entry List.mem_cons_self) (by omega) (endsValue_lineBreak depth _)
      closed
  | cons next entries ih =>
    have shorter := length_writeLines_lt_memberText depth (memberOf entry)
    rw [List.map_cons, memberLines_cons] at enough ⊢
    simp only [List.length_cons, List.length_append, length_lineBreak] at enough
    simp only [List.cons_append, List.append_assoc]
    obtain ⟨fuel, rfl⟩ : ∃ less, fuel = less + 1 := ⟨fuel - 1, by omega⟩
    have others := ih next (fun given listed => each given (List.mem_cons_of_mem _ listed)) fuel
      (by omega)
    refine readMembers_next (each entry List.mem_cons_self) (by omega) (endsValue_comma _)
      (skipLayout_cons (by decide) _) ?_
    rw [skipLayout_lineBreak, skipLayout_memberText, others]

theorem all_isPlain_memberText {depth : Nat} {member : Text × Json}
    (value : (member.2.writeLines (depth + 1)).all CodePoint.isPlain = true) :
    (memberText depth member).all CodePoint.isPlain = true := by
  have colon : CodePoint.isPlain (CodePoint.ofChar ':') = true := by decide
  have blank : CodePoint.isPlain (CodePoint.ofChar ' ') = true := by decide
  simp only [memberText, List.all_append, List.all_cons, all_isPlain_writeText, colon, blank, value,
    Bool.and_self]

theorem all_isPlain_memberLines {members : List (Text × Json)}
    (each : ∀ member ∈ members, ∀ depth, (member.2.writeLines depth).all CodePoint.isPlain = true)
    (depth : Nat) : (memberLines depth members).all CodePoint.isPlain = true := by
  have comma : CodePoint.isPlain (CodePoint.ofChar ',') = true := by decide
  induction members with
  | nil => rfl
  | cons member members ih =>
    rw [memberLines_cons]
    simp only [List.all_cons, List.all_append, comma, all_isPlain_lineBreak,
      all_isPlain_memberText (each member List.mem_cons_self (depth + 1)),
      ih fun other listed => each other (List.mem_cons_of_mem _ listed), Bool.and_self]

theorem readsAs_object {ι : Type} {memberOf : ι → Text × Json} {readOf : ι → Json}
    {limited : Bool} {room : Nat} {entries : List ι}
    (each : ∀ entry ∈ entries, ReadsAs limited (memberOf entry).2 room (readOf entry)) :
    ReadsAs limited (.object (entries.map memberOf)) (room + 1)
      (ofMembers (entries.map fun entry => ((memberOf entry).1.paired, readOf entry))) := by
  have opening : CodePoint.isPlain (CodePoint.ofChar '{') = true := by decide
  have closing : CodePoint.isPlain (CodePoint.ofChar '}') = true := by decide
  cases entries with
  | nil =>
    refine ⟨fun _ => ⟨_, _, rfl, by decide, by decide⟩, fun _ => by rfl, ?_⟩
    intro depth fuel rest enough _
    cases fuel with
    | zero => exact absurd enough (by simp [writeLines, writeScalar, Text.ofString, Text.ofChars])
    | succ fuel => rfl
  | cons entry entries =>
    have first := each entry List.mem_cons_self
    rw [List.map_cons]
    refine ⟨fun depth => ⟨_, _, writeLines_object_cons depth _ _, by decide, by decide⟩,
      fun depth => ?_, ?_⟩
    · have lines : (memberLines depth (entries.map memberOf)).all CodePoint.isPlain = true := by
        apply all_isPlain_memberLines
        intro member given
        obtain ⟨other, listed, rfl⟩ := List.mem_map.mp given
        exact (each other (List.mem_cons_of_mem _ listed)).plain
      rw [writeLines_object_cons]
      simp only [List.all_cons, List.all_append, opening, all_isPlain_lineBreak,
        all_isPlain_memberText (first.plain (depth + 1)), lines, closing, List.all_nil,
        Bool.and_self]
    · intro depth fuel rest enough _
      rw [writeLines_object_cons] at enough ⊢
      simp only [List.length_cons, List.length_append, length_lineBreak] at enough
      obtain ⟨fuel, rfl⟩ : ∃ less, fuel = less + 1 := ⟨fuel - 1, by omega⟩
      have inside := readMembers_memberLines depth rest entries entry each fuel (by omega)
      have skipped := skipLayout_memberText depth (memberOf entry)
        (memberLines depth (entries.map memberOf)
          ++ (lineBreak depth ++ CodePoint.ofChar '}' :: rest))
      obtain ⟨more, quoted⟩ : ∃ more,
          memberText depth (memberOf entry) = CodePoint.ofChar '"' :: more := ⟨_, rfl⟩
      simp only [List.cons_append, List.append_assoc, List.nil_append]
      rw [quoted, List.cons_append] at inside skipped ⊢
      have noQuote : CodePoint.ofChar '{' ≠ CodePoint.ofChar '"' := by decide
      have noList : CodePoint.ofChar '{' ≠ CodePoint.ofChar '[' := by decide
      have noClosing : CodePoint.ofChar '"' ≠ CodePoint.ofChar '}' := by decide
      simp only [readValue, noQuote, noList, skipLayout_lineBreak, skipped, noClosing, inside,
        ↓reduceIte]

theorem readsAs_texts (limited : Bool) (room : Nat) (texts : List Text) :
    ReadsAs limited (.list (texts.map .text)) (room + 1)
      (.list (texts.map fun text => .text text.paired)) :=
  readsAs_list fun text _ => readsAs_text limited room text

/-! A whole text. -/

/-- A document in lines, ended by a line feed, is read back as it is in itself. -/
theorem read_writeLines {limited : Bool} {room : Nat} {document back : Json}
    (reads : ReadsAs limited document room back) :
    read room (document.writeLines 0 ++ [CodePoint.ofChar '\n']) limited = .ok back := by
  have ends : EndsValue [CodePoint.ofChar '\n'] := ⟨_, _, rfl, Or.inr rfl⟩
  have inside := reads.reads 0 (2 * (document.writeLines 0 ++ [CodePoint.ofChar '\n']).length + 2)
    [CodePoint.ofChar '\n'] (by simp only [List.length_append]; omega) ends
  have noMark : (document.writeLines 0 ++ [CodePoint.ofChar '\n']).head? ≠ some 0xfeff := by
    obtain ⟨c, more, written, _⟩ := reads.begins 0
    have plain := reads.plain 0
    rw [written, List.all_cons, Bool.and_eq_true] at plain
    rw [written, List.cons_append, List.head?_cons]
    intro mark
    have small := (CodePoint.isPlain_iff.mp plain.1).1
    rw [Option.some.inj mark] at small
    exact absurd small (by decide)
  have behind : skipLayout [CodePoint.ofChar '\n'] = [] := rfl
  unfold read
  rw [if_neg noMark, reads.skipLayout_writeLines, inside]
  simp only [behind]
  rfl

end ClusterTopology.Json
