import ClusterTopology.Text.Utf8

/-!
Plain texts are the same in bytes and on every system: each of their code points is one byte, and
none of them is a carriage return, so that their line breaks are kept.
-/

namespace ClusterTopology

def CodePoint.isPlain (c : CodePoint) : Bool := c.val < 0x80 && c ≠ CodePoint.ofChar '\r'

theorem CodePoint.isPlain_iff {c : CodePoint} :
    c.isPlain = true ↔ c.val < 0x80 ∧ c ≠ CodePoint.ofChar '\r' := by
  simp only [isPlain, Bool.and_eq_true, decide_eq_true_eq]

namespace Utf8

theorem encodeOne_of_isPlain {c : CodePoint} (plain : c.isPlain = true) :
    encodeOne c = [UInt8.ofNat c.val] := by
  have small := (CodePoint.isPlain_iff.mp plain).1
  simp only [encodeOne, width, small, ↓reduceIte]

theorem decode_encode {text : Text} (plain : text.all CodePoint.isPlain = true) :
    decode (encode text) = .ok text := by
  unfold decode
  generalize 0 = position
  induction text generalizing position with
  | nil => rfl
  | cons c text ih =>
    simp only [List.all_cons, Bool.and_eq_true] at plain
    have small := (CodePoint.isPlain_iff.mp plain.1).1
    have value : (UInt8.ofNat c.val).toNat = c.val := by
      rw [UInt8.toNat_ofNat']
      omega
    have single : UInt8.ofNat c.val < 0x80 := by
      rw [UInt8.lt_iff_toNat_lt, value]
      exact small
    have same : Fin.ofNat 0x110000 c.val = c := Fin.ext (Nat.mod_eq_of_lt c.isLt)
    have rest := ih plain.2 (position + 1)
    unfold encode at rest ⊢
    rw [List.flatMap_cons, encodeOne_of_isPlain plain.1, List.singleton_append, decodeFrom,
      if_pos single, rest, value, same]
    rfl

end Utf8

theorem Text.withLineFeeds_of_plain {text : Text} (plain : text.all CodePoint.isPlain = true) :
    text.withLineFeeds = text := by
  induction text with
  | nil => rfl
  | cons c text ih =>
    simp only [List.all_cons, Bool.and_eq_true] at plain
    rw [withLineFeeds.eq_def]
    simp only [(CodePoint.isPlain_iff.mp plain.1).2, ih plain.2, ↓reduceIte]

end ClusterTopology
