import CodeSearch.Vector

/-!
# The angle with a vector of zeros

A vector that has only zeros, of either sign, has no length: the sum of its squares is +0 in double
precision, for any number of dimensions. So its cosine with any vector is +0, whatever that vector
holds.

- `Single.isZero`: the number is one of the two zeros.
- `dot_self_of_isZero`: the sum of the squares of zeros.
- `cosine_of_isZero`: the cosine with a vector of zeros.
-/

namespace CodeSearch

/-- The number is one of the two zeros. -/
def Single.isZero (x : Single) : Bool := x = ⟨0⟩ || x = ⟨0x80000000⟩

namespace Vector

/-- A square of a zero leaves a sum of +0 as it is. -/
theorem add_square_of_isZero {x : Single} (h : x.isZero = true) :
    0.0 + x.toDouble * x.toDouble = 0.0 := by
  rw [Single.isZero, Bool.or_eq_true, decide_eq_true_eq, decide_eq_true_eq] at h
  rcases h with rfl | rfl
  all_goals decide +kernel

theorem dot_self_of_isZero {vector : Vector} (h : vector.all Single.isZero = true) :
    dot 0.0 vector vector = 0.0 := by
  induction vector with
  | nil => rfl
  | cons x vector ih =>
    rw [List.all_cons, Bool.and_eq_true] at h
    rw [dot, add_square_of_isZero h.1]
    exact ih h.2

/-- The comparison of floating point numbers takes +0 for +0. -/
theorem zero_beq_zero : ((0.0 : Float) == 0.0) = true := by decide +kernel

/-- Nothing but the lengths is looked at when one of the vectors has zeros only, so the other one
may hold infinities and what is not a number. -/
theorem cosine_of_isZero {a b : Vector}
    (h : a.all Single.isZero = true ∨ b.all Single.isZero = true) : cosine a b = Single.zero := by
  unfold cosine
  split
  · rfl
  · rcases h with h | h
    · simp only [dot_self_of_isZero h, zero_beq_zero, Bool.true_or, if_true]
    · simp only [dot_self_of_isZero h, zero_beq_zero, Bool.or_true, if_true]

/-- The zero vector has zeros only. -/
theorem all_isZero_zero (dimensions : Nat) : (zero dimensions).all Single.isZero = true := by
  rw [zero, List.all_replicate]
  by_cases h : dimensions = 0
  · rw [if_pos h]
  · rw [if_neg h]
    decide

end Vector

end CodeSearch
