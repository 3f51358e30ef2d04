import CodeSearch.Embedding.Mock
import CodeSearch.Proofs.Embedding.LinearWords
import Mathlib.Data.FinEnum
import Mathlib.Data.List.Forall2

/-!
# The generator of words

A step of the generator takes three exclusive ors of a word with itself, shifted to one side or the
other. None of them loses a bit: what a shift adds to a bit comes from bits that are told already.
So two different states never meet, and only 0 leads to 0. A step also commutes with exclusive or,
and elimination shows more: no state but 0 stays where it is, and the upper 24 bits of three states
in a row tell where they come from.

- `Mock.xorLeft_injective`, `Mock.xorRight_injective`: a word and its shift, for any amount and any
  number of bits.
- `Mock.step_bijective`, `Mock.step_eq_zero_iff`, `Mock.step_eq_self_iff`: one step.
- `Mock.forall₂_states_ne`, `Mock.moves_of_mem_states`: the states of a stream.
- `Mock.eq_of_map_upper_eq`, `Mock.eq_zero_of_constant_upper`: what the upper bits of a stream tell.
-/

namespace CodeSearch.Mock

/-! ## A word and its shift -/

section

variable {width amount : Nat}

/-- A word and its shift to the left. -/
def xorLeft (amount : Nat) (word : BitVec width) : BitVec width := word ^^^ (word <<< amount)

/-- A word and its shift to the right. -/
def xorRight (amount : Nat) (word : BitVec width) : BitVec width := word ^^^ (word >>> amount)

theorem xorLeft_xor (a b : BitVec width) :
    xorLeft amount (a ^^^ b) = xorLeft amount a ^^^ xorLeft amount b := by
  rw [xorLeft, BitVec.shiftLeft_xor_distrib, Linear.xor_xor_xor_comm]
  rfl

theorem xorRight_xor (a b : BitVec width) :
    xorRight amount (a ^^^ b) = xorRight amount a ^^^ xorRight amount b := by
  rw [xorRight, BitVec.ushiftRight_xor_distrib, Linear.xor_xor_xor_comm]
  rfl

/-- If a shift loses all bits in the end, a word can be told from the exclusive or with its shift:
two words that cannot be told apart differ by a word that no shift changes. -/
theorem xor_shift_injective (times : Nat) {shift : BitVec width → BitVec width}
    (hxor : ∀ a b, shift (a ^^^ b) = shift a ^^^ shift b)
    (hlost : ∀ word, shift^[times] word = 0) :
    Function.Injective fun word => word ^^^ shift word := by
  intro a b h
  have hfixed : shift (a ^^^ b) = a ^^^ b := by
    rw [hxor]
    refine BitVec.xor_eq_zero_iff.mp ?_
    rw [Linear.xor_xor_xor_comm, xor_comm (shift a), xor_comm (shift b)]
    exact BitVec.xor_eq_zero_iff.mpr h
  have hlast : shift^[times] (a ^^^ b) = a ^^^ b := Function.iterate_fixed hfixed times
  exact BitVec.xor_eq_zero_iff.mp (hlast.symm.trans (hlost (a ^^^ b)))

theorem xorLeft_injective (hamount : 0 < amount) :
    Function.Injective (xorLeft amount : BitVec width → BitVec width) := by
  have hagain : ∀ (times : Nat) (word : BitVec width),
      (fun word : BitVec width => word <<< amount)^[times] word = word <<< (amount * times) := by
    intro times word
    induction times with
    | zero => exact (BitVec.shiftLeft_zero word).symm
    | succ times ih =>
      rw [Function.iterate_succ_apply', ih, Nat.mul_succ, BitVec.shiftLeft_add]
  refine xor_shift_injective width (fun a b => BitVec.shiftLeft_xor_distrib a b amount)
    fun word => ?_
  rw [hagain]
  exact BitVec.shiftLeft_eq_zero (Nat.le_mul_of_pos_left width hamount)

theorem xorRight_injective (hamount : 0 < amount) :
    Function.Injective (xorRight amount : BitVec width → BitVec width) := by
  have hagain : ∀ (times : Nat) (word : BitVec width),
      (fun word : BitVec width => word >>> amount)^[times] word = word >>> (amount * times) := by
    intro times word
    induction times with
    | zero => exact (BitVec.ushiftRight_zero word).symm
    | succ times ih =>
      rw [Function.iterate_succ_apply', ih, Nat.mul_succ, BitVec.shiftRight_add]
  refine xor_shift_injective width (fun a b => BitVec.ushiftRight_xor_distrib a b amount)
    fun word => ?_
  rw [hagain]
  exact BitVec.ushiftRight_eq_zero (Nat.le_mul_of_pos_left width hamount)

end

/-! ## One step -/

theorem toBitVec_step (state : UInt64) :
    (step state).toBitVec = xorLeft 17 (xorRight 7 (xorLeft 13 state.toBitVec)) := rfl

theorem step_injective : Function.Injective step := by
  intro a b h
  have hwords := congrArg UInt64.toBitVec h
  rw [toBitVec_step, toBitVec_step] at hwords
  have hthird := xorLeft_injective (by decide) hwords
  have hsecond := xorRight_injective (by decide) hthird
  have hfirst := xorLeft_injective (by decide) hsecond
  exact UInt64.toBitVec_inj.mp hfirst

theorem step_bijective : Function.Bijective step :=
  Finite.injective_iff_bijective.mp step_injective

theorem step_zero : step 0 = 0 := by decide

theorem step_eq_zero_iff {state : UInt64} : step state = 0 ↔ state = 0 := by
  constructor
  · intro h
    exact step_injective (h.trans step_zero.symm)
  · rintro rfl
    exact step_zero

/-- A step commutes with exclusive or. -/
theorem step_xor (a b : UInt64) : step (a ^^^ b) = step a ^^^ step b := by
  apply UInt64.toBitVec_inj.mp
  rw [UInt64.toBitVec_xor, toBitVec_step, toBitVec_step, toBitVec_step, UInt64.toBitVec_xor,
    xorLeft_xor, xorRight_xor, xorLeft_xor]

/-- What a step changes of a state, as a number. -/
def change (state : UInt64) : Nat := (step state ^^^ state).toNat

theorem isLinear_change : Linear.IsLinear change := by
  intro a b
  rw [change, change, change, step_xor, Linear.xor_xor_xor_comm, UInt64.toNat_xor]

/-- No state but 0 stays where it is. -/
theorem step_eq_self_iff {state : UInt64} : step state = state ↔ state = 0 := by
  constructor
  · intro h
    refine isLinear_change.eq_zero (by decide +kernel) ?_
    rw [change, h, UInt64.xor_self, UInt64.toNat_zero]
  · rintro rfl
    exact step_zero

/-! ## The states of a stream -/

/-- Streams from two states are in different states everywhere. -/
theorem forall₂_states_ne {a b : UInt64} (h : a ≠ b) (count : Nat) :
    List.Forall₂ (· ≠ ·) (states a count) (states b count) := by
  induction count generalizing a b with
  | zero => exact List.Forall₂.nil
  | succ count ih =>
    have hstep : step a ≠ step b := step_injective.ne h
    exact List.Forall₂.cons hstep (ih hstep)

/-- A stream from another state than 0 does not come to 0, and it never stays in a state. -/
theorem moves_of_mem_states {seed state : UInt64} (h : seed ≠ 0) {count : Nat}
    (hstate : state ∈ states seed count) : state ≠ 0 ∧ step state ≠ state := by
  induction count generalizing seed with
  | zero => exact absurd hstate List.not_mem_nil
  | succ count ih =>
    have hstep : step seed ≠ 0 := step_eq_zero_iff.not.mpr h
    rcases List.mem_cons.mp hstate with rfl | hstate
    · exact ⟨hstep, step_eq_self_iff.not.mpr hstep⟩
    · exact ih hstep hstate

/-! ## The upper bits -/

/-- The upper 24 bits of a state. -/
def upper (state : UInt64) : Nat := (state >>> 40).toNat

/-- The upper bits of the next three states, one behind the other. -/
def nextUppers (state : UInt64) : Nat :=
  upper (step state) ^^^ upper (step (step state)) <<< 24 ^^^
    upper (step (step (step state))) <<< 48

theorem upper_xor (a b : UInt64) : upper (a ^^^ b) = upper a ^^^ upper b := by
  rw [upper, UInt64.shiftRight_xor, UInt64.toNat_xor]
  rfl

theorem isLinear_nextUppers : Linear.IsLinear nextUppers := by
  intro a b
  simp only [nextUppers, step_xor, upper_xor, Nat.shiftLeft_xor_distrib]
  rw [Linear.xor_xor_xor_comm (upper (step a)), Linear.xor_xor_xor_comm (upper (step a) ^^^ _)]

/-- The upper bits of the next three states tell the state. -/
theorem nextUppers_injective : Function.Injective nextUppers :=
  isLinear_nextUppers.injective (by decide +kernel)

/-- The upper bits of three states in a row tell where a stream started. -/
theorem eq_of_map_upper_eq {a b : UInt64} {count : Nat}
    (h : (states a (count + 3)).map upper = (states b (count + 3)).map upper) : a = b := by
  simp only [states, List.map_cons, List.cons.injEq] at h
  obtain ⟨hfirst, hsecond, hthird, -⟩ := h
  apply nextUppers_injective
  rw [nextUppers, nextUppers, hfirst, hsecond, hthird]

/-- Only the stream from 0 has the same upper bits in four states in a row. -/
theorem eq_zero_of_constant_upper {seed : UInt64} {count bits : Nat}
    (h : ∀ state ∈ states seed (count + 4), upper state = bits) : seed = 0 := by
  simp only [states, List.forall_mem_cons] at h
  obtain ⟨hfirst, hsecond, hthird, hfourth, -⟩ := h
  -- The next three states have the same upper bits as the three states after the first one.
  refine step_eq_self_iff.mp (nextUppers_injective ?_)
  rw [nextUppers, nextUppers, hfirst, hsecond, hthird, hfourth]

end CodeSearch.Mock
