/-!
A text is a sequence of code points. Every code point is admitted, also one half of a surrogate
pair standing alone, because documents may spell such a half with an escape and must get it back.
Texts are ordered code point by code point, which is the order in which names are listed.
-/

namespace ClusterTopology

abbrev CodePoint := Fin 0x110000

-- Named, so that a numeral and a comparison mean the same term whatever a module imports.
instance (priority := 2000) CodePoint.neZero : @NeZero Nat Zero.ofOfNat0 0x110000 := ⟨by decide⟩

instance (priority := 2000) CodePoint.lawfulBEq : LawfulBEq CodePoint := instLawfulBEq

def CodePoint.ofChar (c : Char) : CodePoint :=
  ⟨c.toNat, by
    have valid := c.valid
    unfold Char.toNat
    simp only [UInt32.isValidChar, Nat.isValidChar] at valid
    omega⟩

instance : Coe Char CodePoint := ⟨CodePoint.ofChar⟩

abbrev Text := List CodePoint

namespace Text

def ofChars (chars : List Char) : Text := chars.map CodePoint.ofChar

def ofString (s : String) : Text := ofChars s.toList

instance : Coe String Text := ⟨ofString⟩

def occursIn (part : Text) : Text → Bool
  | [] => part.isEmpty
  | c :: rest => part.isPrefixOf (c :: rest) || occursIn part rest

theorem occursIn_iff (part whole : Text) :
    occursIn part whole = true ↔ ∃ before after, whole = before ++ part ++ after := by
  induction whole with
  | nil => simp [occursIn]
  | cons c rest ih =>
    simp only [occursIn, Bool.or_eq_true, ih, List.isPrefixOf_iff_prefix]
    constructor
    · rintro (⟨after, h⟩ | ⟨before, after, h⟩)
      · exact ⟨[], after, by simp [h]⟩
      · exact ⟨c :: before, after, by simp [h]⟩
    · rintro ⟨before, after, h⟩
      cases before with
      | nil => exact Or.inl ⟨after, by simp [h]⟩
      | cons b before =>
        simp only [List.cons_append, List.cons.injEq] at h
        exact Or.inr ⟨before, after, h.2⟩

def joined (separator : Text) (parts : List Text) : Text :=
  separator.intercalate parts

def ofNat (n : Nat) : Text := ofChars (Nat.toDigits 10 n)

def ofInt : Int → Text
  | .ofNat n => ofNat n
  | .negSucc n => ('-' : Char) :: ofNat (n + 1)

def hexDigit (value : Nat) : CodePoint := CodePoint.ofChar (Nat.digitChar value)

def ofHex : (width : Nat) → (n : Nat) → Text
  | 0, _ => []
  | width + 1, n => ofHex width (n / 16) ++ [hexDigit (n % 16)]

def splitAt (mark : CodePoint) : Text → List Text
  | [] => [[]]
  | c :: rest =>
    if c = mark then [] :: splitAt mark rest
    else match splitAt mark rest with
      | [] => [[c]]
      | part :: parts => (c :: part) :: parts

def splitLast (mark : CodePoint) : Text → Option (Text × Text)
  | [] => none
  | c :: rest =>
    match splitLast mark rest with
    | some (front, back) => some (c :: front, back)
    | none => if c = mark then some ([], rest) else none

def splitFirst (mark : CodePoint) : Text → Option (Text × Text)
  | [] => none
  | c :: rest =>
    if c = mark then some ([], rest)
    else (splitFirst mark rest).map fun (front, back) => (c :: front, back)

end Text
end ClusterTopology
