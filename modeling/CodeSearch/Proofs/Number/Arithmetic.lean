import CodeSearch.Proofs.Number.Exact
import Mathlib

/-!
# Arithmetic that rounds nothing

The result of an operation in single precision is the exact result, rounded. If this is a number of
up to 24 bits in some unit, rounding only shifts it to 24 bits, from either side. So a number of 24
bits divided by `2 ^ 23` is the quotient, and this less 1 is the difference.

- `Single.IsNormal.roundWithAccuracy_scaled`, `Single.round_scaled`: rounding such a number.
- `Single.IsNormal.unpack_pack`, `Single.IsNormal.ofFloat32_pack`: the bits of a normal number.
- `Single.toFloat32_div_sub_one`: a number of 24 bits over `2 ^ 23`, less 1.
-/

namespace CodeSearch.Single

open Float.Model (Format totalExponent UnpackedFloat)
open Float.Model.UnpackedFloat

/-- The sign of a number in the model of arithmetic. -/
def signOf (negative : Bool) : Sign := if negative then .negative else .positive

/-! ## Rounding -/

/-- Zeros that are shifted out leave nothing behind. -/
theorem shiftRight_exact (mantissa shift : Nat) :
    ExtendedMantissa.ofMantissaAndAccuracy (mantissa * 2 ^ shift) .exact >>> shift =
      ExtendedMantissa.ofMantissaAndAccuracy mantissa .exact := by
  induction shift generalizing mantissa with
  | zero =>
    rw [Nat.pow_zero, Nat.mul_one]
    rfl
  | succ shift ih =>
    have hshift : mantissa * 2 ^ (shift + 1) = mantissa * 2 * 2 ^ shift := by
      rw [Nat.pow_succ, Nat.mul_comm (2 ^ shift), Nat.mul_assoc]
    show ExtendedMantissa.shiftRightOne
      (ExtendedMantissa.ofMantissaAndAccuracy (mantissa * 2 ^ (shift + 1)) .exact >>> shift) = _
    rw [hshift, ih, ExtendedMantissa.shiftRightOne, ExtendedMantissa.ofMantissaAndAccuracy]
    simp only [Nat.mul_mod_left, Nat.mul_div_cancel _ Nat.two_pos]
    rfl

theorem log2_mul_two_pow {n : Nat} (hn : n ≠ 0) (shift : Nat) :
    (n * 2 ^ shift).log2 = n.log2 + shift := by
  rw [Nat.log2_eq_iff (Nat.mul_ne_zero hn (Nat.ne_of_gt (Nat.two_pow_pos shift)))]
  constructor
  · rw [Nat.pow_add]
    exact Nat.mul_le_mul_right _ (Nat.log2_self_le hn)
  · rw [Nat.add_right_comm, Nat.pow_add]
    exact Nat.mul_lt_mul_of_pos_right Nat.lt_log2_self (Nat.two_pow_pos shift)

namespace IsNormal

variable {significand : Nat} {exponent : Int}

theorem ne_zero (h : IsNormal significand exponent) : significand ≠ 0 :=
  Nat.ne_of_gt (Nat.lt_of_lt_of_le (Nat.two_pow_pos 23) h.lower)

theorem log2_eq (h : IsNormal significand exponent) : significand.log2 = 23 :=
  (Nat.log2_eq_iff h.ne_zero).mpr ⟨h.lower, h.upper⟩

theorem targetExponent_eq (h : IsNormal significand exponent) (shift : Nat) :
    Format.binary32.targetExponent
      (totalExponent (significand * 2 ^ shift) (exponent - shift)) = exponent := by
  have hlowest := h.lowest
  rw [totalExponent, log2_mul_two_pow h.ne_zero, h.log2_eq]
  show max (((23 + shift : Nat) : Int) + 1 + (exponent - shift) - 24) (-149) = exponent
  omega

theorem shiftToTargetExponent_eq (h : IsNormal significand exponent) (shift : Nat) :
    shiftToTargetExponent Format.binary32 (significand * 2 ^ shift) (exponent - shift) .exact =
      (ExtendedMantissa.ofMantissaAndAccuracy significand .exact, exponent) := by
  have hshift : (exponent - (exponent - shift)).toNat = shift := by omega
  rw [shiftToTargetExponent, h.targetExponent_eq, shiftToExponent, hshift, shiftRight_exact,
    Int.sub_add_cancel]

/-- A significand of 24 bits and zeros behind it is rounded to the significand. -/
theorem roundWithAccuracy_scaled (h : IsNormal significand exponent) (sign : Sign) (shift : Nat) :
    roundWithAccuracy Format.binary32 sign (significand * 2 ^ shift) (exponent - shift) .exact =
      .finite sign significand exponent (Nat.pos_of_ne_zero h.ne_zero) := by
  have hagain := h.shiftToTargetExponent_eq 0
  rw [Nat.pow_zero, Nat.mul_one, Int.natCast_zero, Int.sub_zero] at hagain
  have hrounded :
      (ExtendedMantissa.ofMantissaAndAccuracy significand .exact).roundedMantissa = significand :=
    rfl
  simp only [roundWithAccuracy, h.shiftToTargetExponent_eq, hrounded, hagain]
  exact dif_neg h.ne_zero

end IsNormal

section

variable {n : Nat} {unit : Int}

theorem significandOf_pos (hn : n ≠ 0) : 0 < significandOf n :=
  Nat.mul_pos (Nat.pos_of_ne_zero hn) (Nat.two_pow_pos _)

/-- A number of up to 24 bits and zeros behind it is shifted to 24 bits. -/
theorem round_scaled (hpos : n ≠ 0) (hn : n < 2 ^ 24) (hlowest : -126 ≤ unit)
    (hhighest : unit ≤ 104) (sign : Sign) (shift : Nat) :
    UnpackedFloat.round Format.binary32 sign (n * 2 ^ shift) (unit - shift) =
      .finite sign (significandOf n) (exponentOf n unit) (significandOf_pos hpos) := by
  have hlog := log2_le_of_lt hn
  have hnormal := isNormal_of_lt hpos hn unit hlowest hhighest
  have hexponent : exponentOf n unit = unit - (23 - n.log2 : Nat) := rfl
  have htarget : Format.binary32.targetExponent (totalExponent (n * 2 ^ shift) (unit - shift)) =
      exponentOf n unit := by
    rw [totalExponent, log2_mul_two_pow hpos]
    show max (((n.log2 + shift : Nat) : Int) + 1 + (unit - shift) - 24) (-149) = _
    omega
  rw [UnpackedFloat.round, htarget, decreaseExponent]
  dsimp only
  rcases Nat.le_total shift (23 - n.log2) with hshift | hshift
  · -- The number is shifted to the left.
    have hamount : (unit - shift - exponentOf n unit).toNat = 23 - n.log2 - shift := by omega
    have hmantissa : (n * 2 ^ shift) <<< (23 - n.log2 - shift) = significandOf n * 2 ^ 0 := by
      rw [Nat.shiftLeft_eq, Nat.mul_assoc, ← Nat.pow_add, Nat.add_sub_cancel' hshift,
        significandOf, Nat.pow_zero, Nat.mul_one]
    have hunit : unit - shift - (23 - n.log2 - shift : Nat) = exponentOf n unit - (0 : Nat) := by
      omega
    rw [hamount, hmantissa, hunit, hnormal.roundWithAccuracy_scaled]
  · -- Zeros are shifted out to the right.
    have hamount : (unit - shift - exponentOf n unit).toNat = 0 := by omega
    have hmantissa : (n * 2 ^ shift) <<< 0 = significandOf n * 2 ^ (shift - (23 - n.log2)) := by
      rw [Nat.shiftLeft_zero, significandOf, Nat.mul_assoc, ← Nat.pow_add,
        Nat.add_sub_cancel' hshift]
    have hunit : unit - shift - (0 : Nat) =
        exponentOf n unit - (shift - (23 - n.log2) : Nat) := by
      omega
    rw [hamount, hmantissa, hunit, hnormal.roundWithAccuracy_scaled]

end

/-! ## Bits -/

theorem toNat_packComponents (sign : Sign) (exponent : BitVec 8) (mantissa : BitVec 23) :
    (packComponents Format.binary32 sign exponent mantissa).toNat =
      sign.toBitVec.toNat * 2 ^ 31 + exponent.toNat * 2 ^ 23 + mantissa.toNat := by
  have hexponent := exponent.isLt
  have hmantissa := mantissa.isLt
  rw [packComponents, BitVec.toNat_append, BitVec.toNat_append,
    ← Nat.shiftLeft_add_eq_or_of_lt hexponent, ← Nat.shiftLeft_add_eq_or_of_lt hmantissa,
    Nat.shiftLeft_eq, Nat.shiftLeft_eq]
  omega

namespace IsNormal

variable {significand : Nat} {exponent : Int}

/-- The bits of a normal number are its sign, its exponent and its significand without the first
bit. -/
theorem pack_eq (h : IsNormal significand exponent) (sign : Sign) (hpos : 0 < significand) :
    pack Format.binary32 (.finite sign significand exponent hpos) =
      packComponents Format.binary32 sign (BitVec.ofNat 8 (exponent + 127 + 23).toNat)
        (BitVec.ofNat 23 significand) := by
  have hlog := h.log2_eq
  obtain ⟨-, -, hlowest, hhighest⟩ := h
  show (if 256 ≤ (exponent + 127 + 23).toNat + 1 then _
    else if significand.log2 + 1 = 24 then _ else _) = _
  rw [hlog, if_neg (by omega), if_pos rfl]
  rfl

theorem ofFloat32_pack (h : IsNormal significand exponent) (negative : Bool)
    (hpos : 0 < significand) :
    ofFloat32 (.ofModel (.pack (.finite (signOf negative) significand exponent hpos))) =
      ofParts negative significand exponent := by
  have hsign : (signOf negative).toBitVec.toNat * 2 ^ 31 = if negative then 0x80000000 else 0 := by
    cases negative <;> rfl
  have hpacked : (pack Format.binary32
      (.finite (signOf negative) significand exponent hpos)).toNat =
        (ofParts negative significand exponent).bits.toNat := by
    rw [h.toNat_bits, h.pack_eq, toNat_packComponents, BitVec.toNat_ofNat, BitVec.toNat_ofNat,
      hsign]
    obtain ⟨hlower, hupper, hlowest, hhighest⟩ := h
    omega
  exact congrArg Single.mk (UInt32.toNat_inj.mp hpacked)

theorem unpack_pack (h : IsNormal significand exponent) (sign : Sign) (hpos : 0 < significand) :
    Float32.Model.unpack (.pack (.finite sign significand exponent hpos)) =
      .finite sign significand exponent hpos := by
  obtain ⟨hlower, hupper, hlowest, hhighest⟩ := h
  have hexponent : (BitVec.ofNat 8 (exponent + 127 + 23).toNat).toNat =
      (exponent + 127 + 23).toNat := by
    rw [BitVec.toNat_ofNat]
    omega
  have hfinite : BitVec.ofNat 8 (exponent + 127 + 23).toNat ≠ -1#8 := by
    rw [Ne, ← BitVec.toNat_inj, hexponent]
    show ¬ (exponent + 127 + 23).toNat = 255
    omega
  have hnormal : BitVec.ofNat 8 (exponent + 127 + 23).toNat ≠ 0#8 := by
    rw [Ne, ← BitVec.toNat_inj, hexponent]
    show ¬ (exponent + 127 + 23).toNat = 0
    omega
  have hsignificand : (1#1 ++ BitVec.ofNat 23 significand).toNat = significand := by
    rw [BitVec.toNat_append, ← Nat.shiftLeft_add_eq_or_of_lt (BitVec.isLt _), BitVec.toNat_ofNat]
    show 1 <<< 23 + significand % 2 ^ 23 = significand
    omega
  have hunit : ((exponent + 127 + 23).toNat : Int) -
      (Format.binary32.exponentBias + (23 : Nat)) = exponent := by
    show ((exponent + 127 + 23).toNat : Int) - (127 + 23) = exponent
    omega
  show unpack Format.binary32 (pack Format.binary32 _) = _
  rw [pack_eq ⟨hlower, hupper, hlowest, hhighest⟩, unpack]
  simp only [unpackMantissa_packComponents, unpackExponent_packComponents,
    unpackSign_packComponents, Sign.ofBitVec_toBitVec]
  rw [if_neg hfinite, if_neg hnormal]
  simp only [hsignificand, hexponent, hunit]

end IsNormal

/-- A difference of up to 24 bits and zeros behind it is shifted to 24 bits. -/
theorem normalize_scaled (difference : Int) (hpos : difference.natAbs ≠ 0)
    (hdifference : difference.natAbs < 2 ^ 24) (unit : Int) (hlowest : -126 ≤ unit)
    (hhighest : unit ≤ 104) (zero : Sign) (shift : Nat) :
    UnpackedFloat.normalize Format.binary32 (difference * 2 ^ shift) (unit - shift) zero =
      .finite (signOf (decide (difference < 0))) (significandOf difference.natAbs)
        (exponentOf difference.natAbs unit) (significandOf_pos hpos) := by
  have hscale : (0 : Int) < 2 ^ shift := Int.pow_pos (by decide)
  have hround := round_scaled hpos hdifference hlowest hhighest
    (signOf (decide (difference < 0))) shift
  have habs : (difference * 2 ^ shift).natAbs = difference.natAbs * 2 ^ shift := by
    rw [Int.natAbs_mul, Int.natAbs_pow]
    rfl
  rcases Int.lt_or_gt_of_ne (Int.natAbs_ne_zero.mp hpos) with hsign | hsign
  · have hnegative := Int.mul_neg_of_neg_of_pos hsign hscale
    have hmantissa : (-(difference * 2 ^ shift)).toNat = difference.natAbs * 2 ^ shift := by omega
    rw [UnpackedFloat.normalize, Int.compare_eq_lt.mpr hnegative, hmantissa, ← hround,
      decide_eq_true hsign]
    rfl
  · have hpositive := Int.mul_pos hsign hscale
    have hmantissa : (difference * 2 ^ shift).toNat = difference.natAbs * 2 ^ shift := by omega
    rw [UnpackedFloat.normalize, Int.compare_eq_gt.mpr hpositive, hmantissa, ← hround,
      decide_eq_false (Int.not_lt_of_ge (Int.le_of_lt hsign))]
    rfl

/-! ## A number of 24 bits over `2 ^ 23`, less 1 -/

section

variable {word : UInt64}

/-- The conversion of a number of up to 24 bits. -/
theorem unpack_toFloat32 (hpos : word.toNat ≠ 0) (hword : word.toNat < 2 ^ 24) :
    word.toFloat32.toModel.unpack =
      .finite .positive (significandOf word.toNat) (exponentOf word.toNat 0)
        (significandOf_pos hpos) := by
  have hround := normalize_scaled word.toNat hpos hword 0 (by decide)
    (by decide) .positive 0
  rw [Int.pow_zero, Int.mul_one, Int.natCast_zero, Int.sub_zero,
    decide_eq_false (Int.not_lt_of_ge (Int.natCast_nonneg _))] at hround
  have hnormal := isNormal_of_lt hpos hword 0 (by decide) (by decide)
  show Float32.Model.unpack
    (.pack (UnpackedFloat.normalize Format.binary32 word.toNat 0 .positive)) = _
  rw [hround]
  exact hnormal.unpack_pack .positive (significandOf_pos hpos)

theorem IsNormal.divCore_eq {significand : Nat} {exponent : Int}
    (h : IsNormal significand exponent) (hlowest : -125 ≤ exponent) :
    divCore Format.binary32 significand exponent 0x800000 0 =
      (significand * 2, exponent - 24, .exact) := by
  have htarget : min (exponent - 0) (Format.binary32.targetExponent
      (totalExponent significand exponent - totalExponent 0x800000 0)) = exponent - 24 := by
    rw [totalExponent, h.log2_eq]
    show min (exponent - 0) (max (((23 : Nat) : Int) + 1 + exponent - 24 - 24) (-149)) = _
    omega
  have hshift : (exponent - 0 - (exponent - 24)).toNat = 24 := by omega
  have hscaled : significand <<< 24 = significand * 2 * 0x800000 := by
    rw [Nat.shiftLeft_eq, Nat.mul_assoc]
  rw [divCore, htarget, hshift, hscaled, Nat.mul_div_cancel _ (by decide), Nat.mul_mod_left]
  rfl

/-- A number of up to 24 bits over `2 ^ 23`. -/
theorem unpack_div (hpos : word.toNat ≠ 0) (hword : word.toNat < 2 ^ 24) :
    (word.toFloat32 / (0x800000 : UInt64).toFloat32).toModel.unpack =
      .finite .positive (significandOf word.toNat) (exponentOf word.toNat (-23))
        (significandOf_pos hpos) := by
  have hscale : (0x800000 : UInt64).toFloat32.toModel.unpack =
      .finite .positive 0x800000 0 (by decide) :=
    unpack_toFloat32 (by decide) (by decide)
  have hword0 := isNormal_of_lt hpos hword 0 (by decide) (by decide)
  have hquotient := isNormal_of_lt hpos hword (-23) (by decide) (by decide)
  have hlog := log2_le_of_lt hword
  have hcore := hword0.divCore_eq (by rw [exponentOf]; omega)
  have hexponent : exponentOf word.toNat 0 - 24 = exponentOf word.toNat (-23) - (1 : Nat) := by
    rw [exponentOf, exponentOf]
    omega
  have hround := hquotient.roundWithAccuracy_scaled .positive 1
  rw [Nat.pow_one, ← hexponent] at hround
  show Float32.Model.unpack (.pack (UnpackedFloat.div Format.binary32
    word.toFloat32.toModel.unpack (0x800000 : UInt64).toFloat32.toModel.unpack)) = _
  rw [unpack_toFloat32 hpos hword, hscale, UnpackedFloat.div, hcore]
  show Float32.Model.unpack (.pack (roundWithAccuracy Format.binary32 .positive
    (significandOf word.toNat * 2) (exponentOf word.toNat 0 - 24) .exact)) = _
  rw [hround]
  exact hquotient.unpack_pack .positive (significandOf_pos hpos)

theorem unpack_one :
    (1.0 : Float32).toModel.unpack = .finite .positive 0x800000 (-23) (by decide) := by
  have hbits : (1.0 : Float32).toModel.toBits = 0x3F800000 := by decide +kernel
  rw [Float32.Model.unpack, hbits]
  rfl

/-- The difference of a number of up to 24 bits over `2 ^ 23` and 1. -/
theorem sub_one_eq (hpos : word.toNat ≠ 0) :
    UnpackedFloat.sub Format.binary32
        (.finite .positive (significandOf word.toNat) (exponentOf word.toNat (-23))
          (significandOf_pos hpos))
        (.finite .positive 0x800000 (-23) (by decide)) =
      UnpackedFloat.normalize Format.binary32
        (((word.toNat : Int) - 0x800000) * 2 ^ (23 - word.toNat.log2))
        (-23 - (23 - word.toNat.log2 : Nat)) .positive := by
  have hexponent : exponentOf word.toNat (-23) = -23 - (23 - word.toNat.log2 : Nat) := rfl
  have hsmaller : min (exponentOf word.toNat (-23)) (-23) = exponentOf word.toNat (-23) := by omega
  have hsame : (exponentOf word.toNat (-23) - exponentOf word.toNat (-23)).toNat = 0 := by omega
  have hshift : (-23 - exponentOf word.toNat (-23)).toNat = 23 - word.toNat.log2 := by omega
  have hdifference :
      (significandOf word.toNat : Int) - (0x800000 <<< (23 - word.toNat.log2) : Nat) =
        ((word.toNat : Int) - 0x800000) * 2 ^ (23 - word.toNat.log2) := by
    rw [significandOf, Nat.shiftLeft_eq, Int.natCast_mul, Int.natCast_mul, Int.sub_mul,
      Int.natCast_pow]
    rfl
  rw [UnpackedFloat.sub, hsmaller]
  simp only [decreaseExponent, hsame, hshift, Nat.shiftLeft_zero, Sign.apply]
  rw [hdifference, hexponent]

/-- In single precision, a number of up to 24 bits over `2 ^ 23`, less 1, is the exact number. -/
theorem toFloat32_div_sub_one (hword : word.toNat < 2 ^ 24) :
    ofFloat32 (word.toFloat32 / (0x800000 : UInt64).toFloat32 - 1.0) =
      ofRatio (decide ((word.toNat : Int) - 0x800000 < 0)) ((word.toNat : Int) - 0x800000).natAbs
        0x800000 := by
  by_cases hpos : word.toNat = 0
  · obtain rfl : word = 0 := UInt64.toNat_inj.mp hpos
    decide +kernel
  by_cases hone : ((word.toNat : Int) - 0x800000).natAbs = 0
  · obtain rfl : word = 0x800000 := UInt64.toNat_inj.mp (by show word.toNat = 0x800000; omega)
    decide +kernel
  have hlt : ((word.toNat : Int) - 0x800000).natAbs < 2 ^ 24 := by omega
  have hnormal := isNormal_of_lt hone hlt (-23) (by decide) (by decide)
  show ofFloat32 (.ofModel (.pack (UnpackedFloat.sub Format.binary32
    (word.toFloat32 / (0x800000 : UInt64).toFloat32).toModel.unpack
    (1.0 : Float32).toModel.unpack))) = _
  rw [unpack_div hpos hword, unpack_one, sub_one_eq hpos,
    normalize_scaled _ hone hlt (-23) (by decide) (by decide), hnormal.ofFloat32_pack]
  exact (ofRatio_two_pow hone hlt 23 (by decide) _).symm

end

end CodeSearch.Single
