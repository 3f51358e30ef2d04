import CodeSearch.Text.Utf8
import Mathlib.Data.String.Basic
import Mathlib.Data.List.Lex

/-!
# The order of texts and of their bytes

Texts are ordered character by character, and a character by its code point. Their bytes have the
same order: of two characters the one with the smaller code point has the smaller bytes, and no
character has bytes that are the first ones of another.

- `encodeChar_lt`: the order of the bytes of two characters, whatever comes behind them.
- `encode_lt_encode`: the order of the bytes of two texts; `bytes_lt_bytes`: of two strings.
-/

namespace CodeSearch.Text.Utf8

/-- The bytes of a string. -/
def bytes (text : String) : List UInt8 := encode text.toList

theorem encode_cons (c : Char) (text : List Char) :
    encode (c :: text) = String.utf8EncodeChar c ++ encode text := List.flatMap_cons

/-- Bytes are compared one by one. -/
theorem ofNat_cons_lt_iff {a b : Nat} {as bs : List UInt8} (ha : a < 256) (hb : b < 256) :
    UInt8.ofNat a :: as < UInt8.ofNat b :: bs ↔ a < b ∨ a = b ∧ as < bs := by
  have hlt : UInt8.ofNat a < UInt8.ofNat b ↔ a < b := by
    rw [UInt8.lt_iff_toNat_lt, UInt8.toNat_ofNat_of_lt' ha, UInt8.toNat_ofNat_of_lt' hb]
  have heq : UInt8.ofNat a = UInt8.ofNat b ↔ a = b := by
    rw [← UInt8.toNat_inj, UInt8.toNat_ofNat_of_lt' ha, UInt8.toNat_ofNat_of_lt' hb]
  rw [List.cons_lt_cons_iff, hlt, heq]

/-- Of two characters the one with the smaller code point has the smaller bytes. -/
theorem encodeChar_lt {c d : Char} (h : c < d) (before after : List UInt8) :
    String.utf8EncodeChar c ++ before < String.utf8EncodeChar d ++ after := by
  have hval : c.val.toNat < d.val.toNat := UInt32.lt_iff_toNat_lt.mp h
  have hmax : d.val.toNat < 0x110000 := by
    rcases d.valid with hvalid | ⟨-, hvalid⟩
    · exact Nat.lt_trans hvalid (by decide)
    · exact hvalid
  -- The digits of a code point are found one after the other.
  have hdigits : ∀ n : Nat, n / 4096 = n / 64 / 64 ∧ n / 262144 = n / 64 / 64 / 64 := by
    intro n
    omega
  unfold String.utf8EncodeChar
  dsimp only
  rw [(hdigits c.val.toNat).1, (hdigits c.val.toNat).2, (hdigits d.val.toNat).1,
    (hdigits d.val.toNat).2]
  -- The first byte tells how many there are, and more of them stand for a larger code point.
  split_ifs
  all_goals simp (disch := omega) only [List.cons_append, List.nil_append, ofNat_cons_lt_iff]
  all_goals omega

theorem encode_lt_encode {a b : List Char} (h : a < b) : encode a < encode b := by
  induction h with
  | @nil d b =>
    rw [encode_cons]
    cases hbytes : String.utf8EncodeChar d with
    | nil => exact absurd hbytes String.utf8EncodeChar_ne_nil
    | cons first rest => exact List.Lex.nil
  | cons _ ih =>
    rw [encode_cons, encode_cons]
    exact List.append_left_lt ih
  | rel h =>
    rw [encode_cons, encode_cons]
    exact encodeChar_lt h _ _

/-- The bytes of strings have the order of the strings. -/
theorem bytes_lt_bytes {a b : String} (h : a < b) : bytes a < bytes b :=
  encode_lt_encode (String.lt_iff_toList_lt.mp h)

end CodeSearch.Text.Utf8
