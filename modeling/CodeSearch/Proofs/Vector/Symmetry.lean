import CodeSearch.Proofs.Vector.Angle

/-!
# The cosine of two vectors in either order

A product of two numbers in double precision does not depend on their order, as the same exact
product is rounded. A sum does depend on the order of its terms, but the inner product takes the
numbers of both vectors from the first one on, whichever vector comes first. So the cosine is the
same number in either order, down to its bits.

- `double_mul_comm`: a product in double precision.
- `dot_comm`: an inner product.
- `cosine_comm`: the cosine; `cosine_symmetric`: with the cases in which it is +0.
-/

namespace CodeSearch

namespace Vector

open Float.Model (Format UnpackedFloat)

/-! ## Products in double precision -/

theorem sign_mul_comm (s t : UnpackedFloat.Sign) : s * t = t * s := by
  cases s <;> cases t <;> rfl

/-- A product in any format. Neither the sign of the exact product nor its size depends on which
number comes first. -/
theorem unpacked_mul_comm (format : Format) (x y : UnpackedFloat) :
    UnpackedFloat.mul format x y = UnpackedFloat.mul format y x := by
  cases x with
  | notANumber => cases y <;> rfl
  | infinity s =>
    cases y with
    | notANumber | zero => rfl
    | infinity t | finite t => exact congrArg UnpackedFloat.infinity (sign_mul_comm s t)
  | zero s =>
    cases y with
    | notANumber | infinity => rfl
    | zero t | finite t => exact congrArg UnpackedFloat.zero (sign_mul_comm s t)
  | finite s m e hm =>
    cases y with
    | notANumber => rfl
    | infinity t => exact congrArg UnpackedFloat.infinity (sign_mul_comm s t)
    | zero t => exact congrArg UnpackedFloat.zero (sign_mul_comm s t)
    | finite t n f hn =>
      show UnpackedFloat.roundWithAccuracy format (s * t) (m * n) (e + f) .exact =
        UnpackedFloat.roundWithAccuracy format (t * s) (n * m) (f + e) .exact
      rw [sign_mul_comm s t, Nat.mul_comm m n, Int.add_comm e f]

theorem double_mul_comm (x y : Float) : x * y = y * x :=
  congrArg (fun z => Float.ofModel (Float.Model.pack z))
    (unpacked_mul_comm Format.binary64 x.toModel.unpack y.toModel.unpack)

/-! ## Vectors -/

/-- The terms of both inner products are the same, one by one and in the same order. -/
theorem dot_comm (sum : Float) (a b : Vector) : dot sum a b = dot sum b a := by
  induction a generalizing sum b with
  | nil =>
    cases b with
    | nil => rfl
    | cons y ys => rfl
  | cons x xs ih =>
    cases b with
    | nil => rfl
    | cons y ys => rw [dot, dot, double_mul_comm, ih]

theorem cosine_of_length_ne {a b : Vector} (h : a.length ≠ b.length) :
    cosine a b = Single.zero := by
  rw [cosine, if_pos h]

/-- The lengths of the vectors are looked at together, both of them before the inner product and
as a product behind it. -/
theorem cosine_comm (a b : Vector) : cosine a b = cosine b a := by
  by_cases h : a.length = b.length
  · rw [cosine, cosine, if_neg (not_not_intro h), if_neg (not_not_intro h.symm)]
    dsimp only
    rw [dot_comm 0.0 b a, Bool.or_comm, double_mul_comm (dot 0.0 a a).sqrt]
  · rw [cosine_of_length_ne h, cosine_of_length_ne (Ne.symm h)]

/-- The cosine of two vectors is the same in either order, down to its bits, where what is not a
number is the same as well. It is +0 when the vectors have different numbers of dimensions, and when
one of them has only zeros, of either sign, whatever the other one holds. -/
theorem cosine_symmetric (a b : Vector) :
    cosine a b = cosine b a ∧
    (a.length ≠ b.length → cosine a b = Single.zero) ∧
    (a.all Single.isZero = true ∨ b.all Single.isZero = true → cosine a b = Single.zero) :=
  ⟨cosine_comm a b, cosine_of_length_ne, cosine_of_isZero⟩

/-- Zeros of both signs against an infinity and what is not a number, and vectors of different
lengths. -/
theorem cosine_symmetric_of_zeros :
    let zeros : Vector := [⟨0⟩, ⟨0x80000000⟩]
    let others : Vector := [⟨0xFF800000⟩, ⟨0x7FC00000⟩]
    zeros.all Single.isZero = true ∧ cosine others zeros = Single.zero ∧
      others.length ≠ (zero 3).length ∧ cosine others (zero 3) = Single.zero := by
  intro zeros others
  have hzeros : zeros.all Single.isZero = true := by decide
  have hlength : others.length ≠ (zero 3).length := by decide
  obtain ⟨-, -, hzero⟩ := cosine_symmetric others zeros
  obtain ⟨-, hdifferent, -⟩ := cosine_symmetric others (zero 3)
  exact ⟨hzeros, hzero (.inr hzeros), hlength, hdifferent hlength⟩

end Vector

end CodeSearch
