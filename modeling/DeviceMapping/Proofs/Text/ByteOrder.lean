/-
**The order of texts is that of their bytes.**

* `utf8EncodeChar_append_lt`: encodings of characters are in the order of the characters, whatever
  follows them.
* `bytes_lt_bytes_iff`: so texts compared by code points are compared by the bytes of UTF-8.
-/

import Mathlib.Order.Basic

namespace DeviceMapping.Text

/-- The bytes of a text in UTF-8. -/
def bytes (text : String) : List UInt8 :=
  text.toUTF8.data.toList

theorem bytes_eq_flatMap (text : String) :
    bytes text = text.toList.flatMap String.utf8EncodeChar := by
  have encoded : text.toUTF8 = text.toList.utf8Encode := String.utf8Encode_toList.symm
  rw [bytes, encoded, List.utf8Encode]
  simp

section Bytes

variable {n m : Nat}

theorem byte_lt_iff (small : n < 256) (small' : m < 256) :
    UInt8.ofNat n < UInt8.ofNat m ↔ n < m := by
  rw [UInt8.lt_iff_toNat_lt, UInt8.toNat_ofNat', UInt8.toNat_ofNat', Nat.mod_eq_of_lt small,
    Nat.mod_eq_of_lt small']

theorem byte_eq_iff (small : n < 256) (small' : m < 256) :
    UInt8.ofNat n = UInt8.ofNat m ↔ n = m := by
  rw [← UInt8.toNat_inj, UInt8.toNat_ofNat', UInt8.toNat_ofNat', Nat.mod_eq_of_lt small,
    Nat.mod_eq_of_lt small']

/-- Code points are compared by their sextets. -/
theorem sextets_lt (before : n < m) (bound : m < 0x110000) :
    n / 262144 % 8 < m / 262144 % 8 ∨ n / 262144 % 8 = m / 262144 % 8 ∧
      (n / 4096 % 64 < m / 4096 % 64 ∨ n / 4096 % 64 = m / 4096 % 64 ∧
        (n / 64 % 64 < m / 64 % 64 ∨ n / 64 % 64 = m / 64 % 64 ∧ n % 64 < m % 64)) := by
  rw [Nat.mod_eq_of_lt (show n / 262144 < 8 by omega),
    Nat.mod_eq_of_lt (show m / 262144 < 8 by omega)]
  omega

end Bytes

/-- A shorter encoding begins with a smaller byte, and two of one length are compared by the sextets
of their code points. -/
theorem utf8EncodeChar_append_lt {c d : Char} (before : c < d) (first second : List UInt8) :
    String.utf8EncodeChar c ++ first < String.utf8EncodeChar d ++ second := by
  have below : c.val.toNat < d.val.toNat := before
  have bound : d.val.toNat < 0x110000 := by
    rcases d.valid with low | ⟨-, high⟩
    · exact Nat.lt_trans low (by decide)
    · exact high
  have sextets := sextets_lt below bound
  fun_cases String.utf8EncodeChar c <;> fun_cases String.utf8EncodeChar d <;>
    simp +zetaDelta (disch := omega) only [List.cons_append, List.nil_append,
      List.cons_lt_cons_iff, byte_lt_iff, byte_eq_iff] <;> omega

theorem flatMap_utf8EncodeChar_lt {first second : List Char} (before : first < second) :
    first.flatMap String.utf8EncodeChar < second.flatMap String.utf8EncodeChar := by
  induction before with
  | nil =>
    rw [List.flatMap_nil, List.flatMap_cons]
    obtain ⟨byte, others, encoded⟩ := List.exists_cons_of_ne_nil
      (List.append_ne_nil_of_left_ne_nil String.utf8EncodeChar_ne_nil _)
    rw [encoded]
    exact .nil
  | cons _ ih =>
    rw [List.flatMap_cons, List.flatMap_cons]
    exact List.append_left_lt ih
  | rel before => exact utf8EncodeChar_append_lt before _ _

/-- One text comes before another exactly if its bytes do. -/
theorem bytes_lt_bytes_iff {first second : String} :
    bytes first < bytes second ↔ first < second := by
  have increasing : ∀ {first second : String}, first < second → bytes first < bytes second := by
    intro first second before
    rw [bytes_eq_flatMap, bytes_eq_flatMap]
    exact flatMap_utf8EncodeChar_lt before
  refine ⟨fun before => ?_, increasing⟩
  by_contra notBefore
  by_cases same : second = first
  · exact List.lt_irrefl _ (same ▸ before)
  · have after := Std.lt_of_le_of_ne (String.not_lt.mp notBefore) same
    exact List.lt_asymm before (increasing after)

end DeviceMapping.Text
