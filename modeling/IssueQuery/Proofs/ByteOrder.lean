import IssueQuery.Text.Bytes
import Mathlib.Data.String.Basic

namespace IssueQuery.Text

/-! The order of texts.

Texts are compared character by character.  The UTF-8 form is made such that a
comparison byte by byte has the same result.
-/

theorem ofNat_lt_ofNat {first second : Nat} (firstByte : first < 256) (secondByte : second < 256) :
    UInt8.ofNat first < UInt8.ofNat second ↔ first < second := by
  rw [UInt8.lt_iff_toNat_lt, UInt8.toNat_ofNat_of_lt' firstByte,
    UInt8.toNat_ofNat_of_lt' secondByte]

theorem ofNat_eq_ofNat {first second : Nat} (firstByte : first < 256) (secondByte : second < 256) :
    UInt8.ofNat first = UInt8.ofNat second ↔ first = second := by
  rw [← UInt8.toNat_inj, UInt8.toNat_ofNat_of_lt' firstByte, UInt8.toNat_ofNat_of_lt' secondByte]

/-- The form of a smaller character is smaller whatever follows, since none starts
with another. -/
theorem utf8EncodeChar_append_lt {first second : Char} (smaller : first < second)
    (behindFirst behindSecond : List UInt8) :
    String.utf8EncodeChar first ++ behindFirst < String.utf8EncodeChar second ++ behindSecond := by
  have below : first.val.toNat < second.val.toNat := smaller
  have valid := second.valid
  have bound : second.val.toNat < 1114112 := by
    rcases valid with low | ⟨-, high⟩
    · have : second.val.toNat < 55296 := low
      omega
    · exact high
  -- A number and its parts that stand in different bytes.
  have parts (number : Nat) (bound : number < 1114112) :
      number = number / 262144 % 8 * 262144 + number / 4096 % 64 * 4096 +
        number / 64 % 64 * 64 + number % 64 := by omega
  have ofFirst := parts first.val.toNat (by omega)
  have ofSecond := parts second.val.toNat bound
  rw [String.utf8EncodeChar.eq_1, String.utf8EncodeChar.eq_1]
  split_ifs <;>
    simp (disch := omega) only [List.cons_append, List.nil_append, List.cons_lt_cons_iff,
      ofNat_lt_ofNat, ofNat_eq_ofNat] <;> omega

theorem utf8EncodeChar_append_lt_iff (character : Char) (first second : List UInt8) :
    String.utf8EncodeChar character ++ first < String.utf8EncodeChar character ++ second ↔
      first < second := by
  induction String.utf8EncodeChar character with
  | nil => rfl
  | cons byte rest ih => rw [List.cons_append, List.cons_append, List.cons_lt_cons_self, ih]

theorem utf8_lt_iff (first second : List Char) :
    first.flatMap String.utf8EncodeChar < second.flatMap String.utf8EncodeChar ↔
      first < second := by
  induction first generalizing second with
  | nil =>
      cases second with
      | nil => simp
      | cons character rest =>
          obtain ⟨byte, bytes, form⟩ :=
            List.exists_cons_of_ne_nil (String.utf8EncodeChar_ne_nil (c := character))
          simp [form]
  | cons character rest ih =>
      cases second with
      | nil => simp
      | cons other others =>
          rw [List.flatMap_cons, List.flatMap_cons, List.cons_lt_cons_iff]
          rcases lt_trichotomy character other with smaller | rfl | greater
          · exact iff_of_true (utf8EncodeChar_append_lt smaller _ _) (.inl smaller)
          · simp [utf8EncodeChar_append_lt_iff, ih]
          · have larger := utf8EncodeChar_append_lt greater (others.flatMap String.utf8EncodeChar)
              (rest.flatMap String.utf8EncodeChar)
            refine iff_of_false (List.lt_asymm larger) ?_
            rintro (smaller | ⟨rfl, -⟩)
            · exact lt_asymm smaller greater
            · exact lt_irrefl _ greater

/-- Texts stand in the same order as their UTF-8 forms. -/
theorem bytes_lt_bytes_iff {first second : String} :
    bytes first < bytes second ↔ first < second := by
  rw [bytes, bytes, utf8_lt_iff, String.lt_iff_toList_lt]

theorem bytes_le_bytes_iff {first second : String} :
    bytes first ≤ bytes second ↔ first ≤ second := by
  rw [← List.not_lt, bytes_lt_bytes_iff, not_lt]

theorem bytes_injective : Function.Injective bytes := by
  intro first second same
  rcases lt_trichotomy first second with smaller | equal | greater
  · exact absurd (same ▸ bytes_lt_bytes_iff.mpr smaller) (List.lt_irrefl _)
  · exact equal
  · exact absurd (same ▸ bytes_lt_bytes_iff.mpr greater) (List.lt_irrefl _)

end IssueQuery.Text
