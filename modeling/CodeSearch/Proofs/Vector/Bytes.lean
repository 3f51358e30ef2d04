import CodeSearch.Vector
import Mathlib.Data.List.DropRight
import Mathlib.Data.Nat.Digits.Defs

/-!
# Vectors as bytes

The four bytes of a number are the digits of its bits in base 256, the least significant first, and
every four bytes are the bytes of one number.

- `decode_encode`: the bytes of a vector hold all its numbers, bit for bit.
- `length_encode`: there are four of them for each number.
- `encode_decode`: a byte string is written back up to the bytes at its end that make no number.
- `encode_decode_inverse`: all of it, and the order of the bytes.
-/

namespace CodeSearch

namespace Vector

/-! ## The bytes of one number -/

/-- Bits that do not meet are added. -/
theorem or_mul_two_pow {low k : Nat} (h : low < 2 ^ k) (high : Nat) :
    low ||| 2 ^ k * high = low + 2 ^ k * high := by
  rw [Nat.or_comm, ← Nat.two_pow_add_eq_or_of_lt h, Nat.add_comm]

/-- The bits of a number are its bytes, read in base 256. -/
theorem toNat_bits_decodeSingle (a b c d : UInt8) :
    (decodeSingle a b c d).bits.toNat =
      a.toNat + 2 ^ 8 * b.toNat + 2 ^ 16 * c.toNat + 2 ^ 24 * d.toNat := by
  have ha := a.toNat_lt
  have hb := b.toNat_lt
  have hc := c.toNat_lt
  have hd := d.toNat_lt
  have hab : a.toNat + 2 ^ 8 * b.toNat < 2 ^ 16 := by omega
  have habc : a.toNat + 2 ^ 8 * b.toNat + 2 ^ 16 * c.toNat < 2 ^ 24 := by omega
  have hbits : (decodeSingle a b c d).bits.toNat =
      a.toNat ||| b.toNat <<< 8 % 2 ^ 32 ||| c.toNat <<< 16 % 2 ^ 32 ||| d.toNat <<< 24 % 2 ^ 32 :=
    rfl
  -- Nothing is shifted out, and each byte begins where the ones before it end.
  rw [hbits, Nat.shiftLeft_eq, Nat.shiftLeft_eq, Nat.shiftLeft_eq, Nat.mod_eq_of_lt (by omega),
    Nat.mod_eq_of_lt (by omega), Nat.mod_eq_of_lt (by omega), Nat.mul_comm b.toNat,
    Nat.mul_comm c.toNat, Nat.mul_comm d.toNat, or_mul_two_pow ha, or_mul_two_pow hab,
    or_mul_two_pow habc]

/-- The bytes of a number are the digits of its bits in base 256, the least significant first. -/
theorem toNat_encodeSingle (x : Single) :
    (encodeSingle x).map UInt8.toNat =
      [x.bits.toNat % 2 ^ 8, x.bits.toNat / 2 ^ 8 % 2 ^ 8, x.bits.toNat / 2 ^ 16 % 2 ^ 8,
        x.bits.toNat / 2 ^ 24 % 2 ^ 8] := by
  rw [← Nat.shiftRight_eq_div_pow, ← Nat.shiftRight_eq_div_pow, ← Nat.shiftRight_eq_div_pow]
  rfl

theorem ofDigits_encodeSingle (x : Single) :
    Nat.ofDigits 256 ((encodeSingle x).map UInt8.toNat) = x.bits.toNat := by
  have hlt := x.bits.toNat_lt
  simp only [toNat_encodeSingle, Nat.ofDigits_cons, Nat.ofDigits_nil]
  omega

/-- Any four bytes are the bytes of the number that they stand for. -/
theorem encodeSingle_decodeSingle (a b c d : UInt8) :
    encodeSingle (decodeSingle a b c d) = [a, b, c, d] := by
  have ha := a.toNat_lt
  have hb := b.toNat_lt
  have hc := c.toNat_lt
  have hd := d.toNat_lt
  refine List.map_injective_iff.mpr (fun _ _ => UInt8.toNat_inj.mp) ?_
  rw [toNat_encodeSingle, toNat_bits_decodeSingle, List.map_cons, List.map_cons, List.map_cons,
    List.map_cons, List.map_nil]
  refine congrArg₂ _ ?_ (congrArg₂ _ ?_ (congrArg₂ _ ?_ (congrArg (· :: []) ?_)))
  all_goals omega

/-- The four bytes of a number hold all its bits. -/
theorem decodeSingle_encode (x : Single) :
    decodeSingle x.bits.toUInt8 (x.bits >>> 8).toUInt8 (x.bits >>> 16).toUInt8
      (x.bits >>> 24).toUInt8 = x := by
  obtain ⟨bits⟩ := x
  rw [decodeSingle, Single.mk.injEq, ← UInt32.toBitVec_inj]
  ext i hi
  simp only [UInt32.toBitVec_or, UInt32.toBitVec_shiftLeft, UInt8.toBitVec_toUInt32,
    UInt32.toBitVec_toUInt8, UInt32.toBitVec_shiftRight, UInt32.toBitVec_ofNat]
  simp only [BitVec.ofNat_eq_ofNat, BitVec.reduceMod, BitVec.ushiftRight_eq', BitVec.toNat_ofNat,
    Nat.reducePow, Nat.reduceMod, BitVec.shiftLeft_eq', BitVec.getElem_or, BitVec.getElem_setWidth,
    BitVec.getLsbD_setWidth, BitVec.getElem_shiftLeft, BitVec.getLsbD_ushiftRight]
  grind

/-! ## The bytes of a vector -/

/-- Reading the bytes of a vector gives the vector back. -/
theorem decode_encode (vector : Vector) : decode (encode vector) = vector := by
  induction vector with
  | nil => rfl
  | cons x vector ih =>
    show decodeSingle _ _ _ _ :: decode (encode vector) = x :: vector
    rw [decodeSingle_encode, ih]

theorem length_encode (vector : Vector) : (encode vector).length = 4 * vector.length := by
  induction vector with
  | nil => rfl
  | cons x vector ih =>
    show (encode vector).length + 4 = 4 * (vector.length + 1)
    rw [ih, Nat.mul_add]

theorem encode_cons (x : Single) (vector : Vector) :
    encode (x :: vector) = encodeSingle x ++ encode vector := List.flatMap_cons

theorem encode_append (first last : Vector) :
    encode (first ++ last) = encode first ++ encode last := List.flatMap_append

/-- Only the bytes at the end that make no number are lost. -/
theorem encode_decode (bytes : List UInt8) :
    encode (decode bytes) = bytes.rdrop (bytes.length % 4) := by
  fun_induction decode bytes with
  | case1 a b c d rest ih =>
    have hlength : (a :: b :: c :: d :: rest).length % 4 = rest.length % 4 :=
      Nat.add_mod_right rest.length 4
    have hle : rest.length % 4 ≤ rest.length := Nat.mod_le _ _
    rw [encode_cons, encodeSingle_decodeSingle, ih, hlength]
    exact (List.rdrop_append_of_le_length _ hle).symm
  | case2 bytes hshort =>
    have hlt : bytes.length < 4 := by
      match bytes, hshort with
      | [], _ | [_], _ | [_, _], _ | [_, _, _], _ => simp
      | a :: b :: c :: d :: rest, hshort => exact absurd rfl (hshort a b c d rest)
    rw [Nat.mod_eq_of_lt hlt]
    simp [List.rdrop, encode]

/-- Reading the bytes of a vector gives the vector back, and there are four of them for each number:
the digits of its bits in base 256, the least significant first. Writing what was read from some
bytes gives them back, up to those at the end that make no number. Vectors one after the other are
written one after the other. -/
theorem encode_decode_inverse :
    (∀ vector : Vector,
      decode (encode vector) = vector ∧ (encode vector).length = 4 * vector.length) ∧
    (∀ x : Single, Nat.ofDigits 256 ((encode [x]).map UInt8.toNat) = x.bits.toNat) ∧
    (∀ bytes : List UInt8, encode (decode bytes) = bytes.rdrop (bytes.length % 4)) ∧
    ∀ first last : Vector, encode (first ++ last) = encode first ++ encode last := by
  refine ⟨fun vector => ⟨decode_encode vector, length_encode vector⟩, fun x => ?_, encode_decode,
    encode_append⟩
  rw [encode_cons, show encode [] = [] from rfl, List.append_nil]
  exact ofDigits_encodeSingle x

end Vector

end CodeSearch
