import Mathlib.Order.Basic
import Mathlib.Tactic.SplitIfs

/-!
# The order of texts

Texts are compared character by character. That is the same as comparing their bytes in UTF-8: of
two characters the greater one has the greater bytes, and neither encoding begins the other.
-/
namespace MeterSight.Text
open String (utf8EncodeChar)

/-- The bytes of a text in UTF-8. -/
def utf8Bytes (s : String) : List UInt8 := s.toUTF8.data.toList

theorem utf8Bytes_eq (s : String) : utf8Bytes s = s.toList.flatMap utf8EncodeChar := by
  rw [utf8Bytes, String.toUTF8_eq_toByteArray, ← String.utf8Encode_toList, List.utf8Encode,
    List.data_toByteArray]

/-- Whatever follows, the greater character has the greater bytes: with more bytes the first one is
greater, and with as many they are digits to the base 64. -/
theorem utf8EncodeChar_append_lt {c d : Char} (h : c < d) (s t : List UInt8) :
    utf8EncodeChar c ++ s < utf8EncodeChar d ++ t := by
  have less : c.val.toNat < d.val.toNat := h
  have valid : d.val.toNat ≤ 0x10FFFF := by
    have := d.valid
    simp only [UInt32.isValidChar, Nat.isValidChar] at this
    omega
  simp only [utf8EncodeChar]
  generalize c.val.toNat = m at less
  generalize d.val.toNat = n at less valid
  have second (k : Nat) : k / 4096 = k / 64 / 64 := by omega
  have third (k : Nat) : k / 262144 = k / 64 / 64 / 64 := by omega
  have digits (k : Nat) := Nat.div_add_mod k 64
  have m₁ := digits m
  have m₂ := digits (m / 64)
  have m₃ := digits (m / 64 / 64)
  have n₁ := digits n
  have n₂ := digits (n / 64)
  have n₃ := digits (n / 64 / 64)
  simp only [second, third]
  split_ifs <;>
    simp only [List.cons_append, List.nil_append, List.cons_lt_cons_iff, UInt8.lt_iff_toNat_lt,
      ← UInt8.toNat_inj, UInt8.toNat_ofNat'] <;>
    omega

theorem flatMap_utf8EncodeChar_lt {a b : List Char} (h : a < b) :
    a.flatMap utf8EncodeChar < b.flatMap utf8EncodeChar := by
  induction h with
  | @nil c rest =>
    obtain ⟨first, others, eq⟩ := List.exists_cons_of_ne_nil (String.utf8EncodeChar_ne_nil (c := c))
    rw [List.flatMap_cons, eq, List.flatMap_nil, List.cons_append]
    exact List.nil_lt_cons _ _
  | rel less =>
    rw [List.flatMap_cons, List.flatMap_cons]
    exact utf8EncodeChar_append_lt less _ _
  | cons _ ih =>
    rw [List.flatMap_cons, List.flatMap_cons]
    exact List.append_left_lt ih

/-- Texts and their bytes are in the same order. -/
theorem utf8Bytes_lt_iff (a b : String) : utf8Bytes a < utf8Bytes b ↔ a < b := by
  have keeps {a b : String} (h : a < b) : utf8Bytes a < utf8Bytes b := by
    rw [utf8Bytes_eq, utf8Bytes_eq]
    exact flatMap_utf8EncodeChar_lt h
  refine ⟨fun less => ?_, keeps⟩
  by_contra notLess
  by_cases greater : b < a
  · exact List.lt_asymm less (keeps greater)
  · obtain rfl : a = b := String.le_antisymm (String.not_lt.1 greater) (String.not_lt.1 notLess)
    exact List.lt_irrefl _ less

end MeterSight.Text
