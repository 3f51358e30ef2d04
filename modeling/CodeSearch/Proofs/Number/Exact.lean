import CodeSearch.Number.Single
import Mathlib.Algebra.Order.Field.Rat
import Mathlib.Tactic.FieldSimp
import Mathlib.Tactic.NormNum
import Mathlib.Tactic.Ring

/-!
# Quotients that are singles exactly

A number of up to 24 bits over a power of two needs no rounding: shifted to 24 bits it is the
significand of a single. So its single has the value of the quotient itself.

- `Single.value`: the value of a finite number.
- `Single.IsNormal`, `Single.ofParts`: a significand and an exponent, and the number made of them.
- `Single.significandOf`, `Single.exponentOf`: a number of up to 24 bits, shifted to 24 bits.
- `Single.ofRatio_two_pow`, `Single.value_ofRatio_two_pow`: the single of a quotient.
-/

namespace CodeSearch.Single

/-- The number is neither infinite nor what is not a number. -/
def IsFinite (x : Single) : Prop := x.isNaN = false ∧ x.isInfinite = false

/-- The value of a finite number. -/
def value (x : Single) : ℚ := (if x.isNegative then -1 else 1) * x.parts.1 * 2 ^ x.parts.2

/-! ## Normal numbers -/

/-- A significand of 24 bits and an exponent that leave room for each other in 31 bits. -/
structure IsNormal (significand : Nat) (exponent : Int) : Prop where
  lower : 2 ^ 23 ≤ significand
  upper : significand < 2 ^ 24
  lowest : -149 ≤ exponent
  highest : exponent ≤ 104

/-- The normal number with the given significand and exponent. -/
def ofParts (negative : Bool) (significand : Nat) (exponent : Int) : Single :=
  ⟨UInt32.ofNat ((if negative then 0x80000000 else 0) +
    ((exponent + 149).toNat * 0x800000 + significand))⟩

namespace IsNormal

variable {significand : Nat} {exponent : Int}

/-- The bits behind the sign stay below those of an infinity. -/
theorem magnitude_lt (h : IsNormal significand exponent) :
    (exponent + 149).toNat * 0x800000 + significand < 0x7F800000 := by
  obtain ⟨-, hupper, hlowest, hhighest⟩ := h
  omega

theorem toNat_bits (h : IsNormal significand exponent) (negative : Bool) :
    (ofParts negative significand exponent).bits.toNat =
      (if negative then 0x80000000 else 0) + ((exponent + 149).toNat * 0x800000 + significand) := by
  have hlt := h.magnitude_lt
  rw [ofParts, UInt32.toNat_ofNat', Nat.mod_eq_of_lt]
  split <;> omega

theorem magnitude_ofParts (h : IsNormal significand exponent) (negative : Bool) :
    (ofParts negative significand exponent).magnitude =
      (exponent + 149).toNat * 0x800000 + significand := by
  have hlt := h.magnitude_lt
  rw [magnitude, h.toNat_bits]
  split <;> omega

theorem isNegative_ofParts (h : IsNormal significand exponent) (negative : Bool) :
    (ofParts negative significand exponent).isNegative = negative := by
  have hlt := h.magnitude_lt
  refine Bool.eq_iff_iff.mpr ?_
  rw [isNegative, decide_eq_true_eq, ge_iff_le, UInt32.le_iff_toNat_le, h.toNat_bits]
  cases negative with
  | false =>
    rw [if_neg Bool.false_ne_true, Nat.zero_add]
    exact iff_of_false (Nat.not_le_of_lt (Nat.lt_trans hlt (by decide))) Bool.false_ne_true
  | true =>
    rw [if_pos rfl]
    exact iff_of_true (Nat.le_add_right _ _) rfl

theorem isFinite_ofParts (h : IsNormal significand exponent) (negative : Bool) :
    (ofParts negative significand exponent).IsFinite := by
  have hlt := h.magnitude_lt
  rw [← h.magnitude_ofParts negative] at hlt
  exact ⟨decide_eq_false (Nat.not_lt_of_lt hlt), beq_false_of_ne (Nat.ne_of_lt hlt)⟩

theorem parts_ofParts (h : IsNormal significand exponent) (negative : Bool) :
    (ofParts negative significand exponent).parts = (significand, exponent) := by
  have hmagnitude := h.magnitude_ofParts negative
  obtain ⟨hlower, hupper, hlowest, -⟩ := h
  have hfield : ((exponent + 149).toNat * 0x800000 + significand) / 0x800000 =
      (exponent + 149).toNat + 1 := by omega
  have hfraction : ((exponent + 149).toNat * 0x800000 + significand) % 0x800000 =
      significand - 0x800000 := by omega
  rw [parts, hmagnitude, hfield, hfraction, if_neg (Nat.succ_ne_zero _), Prod.mk.injEq]
  constructor <;> omega

theorem value_ofParts (h : IsNormal significand exponent) (negative : Bool) :
    (ofParts negative significand exponent).value =
      (if negative then -1 else 1) * significand * 2 ^ exponent := by
  rw [value, h.parts_ofParts, h.isNegative_ofParts]

end IsNormal

/-! ## Numbers of up to 24 bits -/

/-- A number shifted to 24 bits. -/
def significandOf (n : Nat) : Nat := n * 2 ^ (23 - n.log2)

/-- The exponent of a number in the given unit after the shift. -/
def exponentOf (n : Nat) (unit : Int) : Int := unit - (23 - n.log2 : Nat)

section

variable {n : Nat}

theorem log2_le_of_lt (hn : n < 2 ^ 24) : n.log2 ≤ 23 := by
  by_cases hzero : n = 0
  · rw [hzero]
    decide
  · exact Nat.le_of_lt_succ ((Nat.log2_lt hzero).mpr hn)

theorem isNormal_of_lt (hpos : n ≠ 0) (hn : n < 2 ^ 24) (unit : Int) (hlowest : -126 ≤ unit)
    (hhighest : unit ≤ 104) : IsNormal (significandOf n) (exponentOf n unit) := by
  have hlog := log2_le_of_lt hn
  constructor
  · calc 2 ^ 23 = 2 ^ n.log2 * 2 ^ (23 - n.log2) := by
          rw [← Nat.pow_add, Nat.add_sub_cancel' hlog]
      _ ≤ n * 2 ^ (23 - n.log2) := Nat.mul_le_mul_right _ (Nat.log2_self_le hpos)
  · calc n * 2 ^ (23 - n.log2) < 2 ^ (n.log2 + 1) * 2 ^ (23 - n.log2) :=
          Nat.mul_lt_mul_of_pos_right Nat.lt_log2_self (Nat.two_pow_pos _)
      _ = 2 ^ 24 := by
          rw [← Nat.pow_add]
          congr 1
          omega
  · rw [exponentOf]
    omega
  · rw [exponentOf]
    omega

theorem significandOf_mul_zpow (n : Nat) (unit : Int) :
    (significandOf n : ℚ) * 2 ^ exponentOf n unit = n * 2 ^ unit := by
  rw [significandOf, exponentOf, Nat.cast_mul, Nat.cast_pow, Nat.cast_ofNat,
    zpow_sub₀ two_ne_zero, zpow_natCast]
  field_simp

/-! ## Quotients by powers of two -/

theorem roundHalfEven_mul {denominator : Nat} (h : 0 < denominator) (quotient : Nat) :
    roundHalfEven (quotient * denominator) denominator = quotient := by
  rw [roundHalfEven, Nat.mul_mod_left, Nat.mul_div_cancel _ h, Nat.mul_zero, if_pos h]

theorem exponentOfRatio_two_pow (hpos : n ≠ 0) (places : Nat) :
    exponentOfRatio n (2 ^ places) = n.log2 - places := by
  have hlog := Nat.log2_self_le hpos
  rw [exponentOfRatio, Nat.log2_two_pow]
  split
  · next hguess =>
    have hshift : 2 ^ places <<< ((n.log2 : Int) - places).toNat = 2 ^ n.log2 := by
      rw [Nat.shiftLeft_eq, ← Nat.pow_add]
      congr 1
      omega
    rw [hshift, if_neg]
    simpa using hlog
  · next hguess =>
    have hshift : n <<< (-((n.log2 : Int) - places)).toNat =
        n * 2 ^ (-((n.log2 : Int) - places)).toNat := Nat.shiftLeft_eq n _
    have hge : 2 ^ places ≤ n <<< (-((n.log2 : Int) - places)).toNat := by
      rw [hshift]
      calc 2 ^ places = 2 ^ n.log2 * 2 ^ (-((n.log2 : Int) - places)).toNat := by
            rw [← Nat.pow_add]
            congr 1
            omega
        _ ≤ n * 2 ^ (-((n.log2 : Int) - places)).toNat := Nat.mul_le_mul_right _ hlog
    rw [if_neg]
    simpa using hge

/-- A number of up to 24 bits over a power of two is not rounded. -/
theorem ofRatio_two_pow (hpos : n ≠ 0) (hn : n < 2 ^ 24) (places : Nat) (hplaces : places ≤ 126)
    (negative : Bool) :
    ofRatio negative n (2 ^ places) =
      ofParts negative (significandOf n) (exponentOf n (-places)) := by
  have hlog := log2_le_of_lt hn
  have hnormal := isNormal_of_lt hpos hn (-places) (by omega) (by omega)
  have hunit : max ((n.log2 : Int) - places - 23) (-149) = exponentOf n (-places) := by
    rw [exponentOf]
    omega
  have hsignificand :
      (if exponentOf n (-places) ≥ 0 then
        roundHalfEven n (2 ^ places <<< (exponentOf n (-places)).toNat)
      else roundHalfEven (n <<< (-exponentOf n (-places)).toNat) (2 ^ places)) =
        significandOf n := by
    split
    · next hge =>
      -- The quotient is a number of 24 bits itself.
      have hexponent : (exponentOf n (-places)).toNat = 0 := by
        rw [exponentOf] at hge ⊢
        omega
      obtain ⟨rfl, htop⟩ : places = 0 ∧ n.log2 = 23 := by
        rw [exponentOf] at hge
        omega
      rw [hexponent, significandOf, htop]
      simpa using roundHalfEven_mul Nat.one_pos n
    · have hshift : n <<< (-exponentOf n (-places)).toNat = significandOf n * 2 ^ places := by
        rw [Nat.shiftLeft_eq, significandOf, Nat.mul_assoc, ← Nat.pow_add, exponentOf]
        congr 2
        omega
      rw [hshift, roundHalfEven_mul (Nat.two_pow_pos places)]
  rw [ofRatio, if_neg (by simp [hpos])]
  dsimp only
  rw [exponentOfRatio_two_pow hpos, if_neg (by omega), hunit, hsignificand,
    Nat.min_eq_left (Nat.le_of_lt hnormal.magnitude_lt)]
  rfl

theorem ofRatio_zero (negative : Bool) (denominator : Nat) :
    ofRatio negative 0 denominator = ⟨if negative then 0x80000000 else 0⟩ := by
  rw [ofRatio, decide_eq_true rfl, Bool.true_or, if_pos rfl]
  cases negative <;> rfl

/-- The single of a number of up to 24 bits over a power of two has the value of the quotient. -/
theorem value_ofRatio_two_pow (hn : n < 2 ^ 24) (places : Nat) (hplaces : places ≤ 126)
    (negative : Bool) :
    (ofRatio negative n (2 ^ places)).IsFinite ∧
      (ofRatio negative n (2 ^ places)).value = (if negative then -1 else 1) * n / 2 ^ places := by
  by_cases hpos : n = 0
  · rw [hpos, ofRatio_zero]
    refine ⟨by cases negative <;> exact ⟨by decide, by decide⟩, ?_⟩
    have hparts : (⟨if negative then 0x80000000 else 0⟩ : Single).parts = (0, -149) := by
      cases negative <;> rfl
    rw [value, hparts, Nat.cast_zero, mul_zero, mul_zero, zero_mul, zero_div]
  · have hnormal := isNormal_of_lt hpos hn (-places) (by omega) (by omega)
    rw [ofRatio_two_pow hpos hn places hplaces]
    refine ⟨hnormal.isFinite_ofParts negative, ?_⟩
    rw [hnormal.value_ofParts, mul_assoc, significandOf_mul_zpow, zpow_neg, zpow_natCast,
      ← mul_assoc, div_eq_mul_inv]

end

end CodeSearch.Single
