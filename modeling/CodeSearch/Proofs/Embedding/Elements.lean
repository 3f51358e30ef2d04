import CodeSearch.Proofs.Embedding.Generator
import CodeSearch.Proofs.Number.Arithmetic
import Mathlib.Tactic.Linarith

/-!
# The elements of a stream

An element is made of the upper 24 bits of a state: the number is divided by `2 ^ 23`, and 1 is
taken away, all in single precision. None of the three operations rounds. So the element is exact,
the elements of a stream tell as much as the upper bits of its states, and what is known of these
holds of the elements as well.

- `Mock.element_eq_ofFloat32`: the element as it is computed.
- `Mock.value_element`, `Mock.onGrid_element`: the element as a number.
- `Mock.eq_of_map_element_eq`: three elements tell the state that a stream starts from.
- `Mock.exists_element_ne`: four elements are not all the same.
- `Mock.streams_apart_elements_exact`: the streams of texts.
-/

namespace CodeSearch.Mock

/-! ## One element -/

theorem upper_lt (state : UInt64) : upper state < 2 ^ 24 := by
  have hstate := state.toNat_lt
  rw [upper, UInt64.toNat_shiftRight, Nat.shiftRight_eq_div_pow]
  show state.toNat / 2 ^ 40 < 2 ^ 24
  omega

/-- The element is what single precision makes of the upper bits. -/
theorem element_eq_ofFloat32 (state : UInt64) :
    element state =
      Single.ofFloat32 ((state >>> 40).toFloat32 / ((1 : UInt64) <<< 23).toFloat32 - 1.0) :=
  (Single.toFloat32_div_sub_one (upper_lt state)).symm

theorem isFinite_and_value_element (state : UInt64) :
    (element state).IsFinite ∧ (element state).value = units state / 2 ^ 23 := by
  have hupper := upper_lt state
  have hunits : units state = (upper state : ℤ) - 0x800000 := rfl
  obtain ⟨hfinite, hvalue⟩ := Single.value_ofRatio_two_pow (n := (units state).natAbs) (by omega)
    23 (by decide) (decide (units state < 0))
  refine ⟨hfinite, hvalue.trans ?_⟩
  congr 1
  by_cases hsign : units state < 0
  · rw [decide_eq_true hsign, if_pos rfl, Nat.cast_natAbs, abs_of_neg hsign, Int.cast_neg,
      neg_one_mul, neg_neg]
  · rw [decide_eq_false hsign, if_neg Bool.false_ne_true, Nat.cast_natAbs,
      abs_of_nonneg (Int.not_lt.mp hsign), one_mul]

/-- The element is the upper bits over `2 ^ 23`, less 1. -/
theorem value_element (state : UInt64) :
    (element state).value = (upper state : ℚ) / 2 ^ 23 - 1 := by
  have hunits : units state = (upper state : ℤ) - 0x800000 := rfl
  rw [(isFinite_and_value_element state).2, hunits]
  push_cast
  norm_num [sub_div]

/-- The number is a multiple of `2 ^ -23` from -1 up to 1, and it is not 1. -/
structure OnGrid (x : Single) : Prop where
  finite : x.IsFinite
  multiple : ∃ count : ℤ, x.value = count / 2 ^ 23
  lower : -1 ≤ x.value
  upper : x.value < 1

theorem onGrid_element (state : UInt64) : OnGrid (element state) := by
  have hupper : (upper state : ℚ) < 2 ^ 24 := by exact_mod_cast upper_lt state
  have hnonneg : (0 : ℚ) ≤ upper state := Nat.cast_nonneg _
  obtain ⟨hfinite, hvalue⟩ := isFinite_and_value_element state
  refine ⟨hfinite, ⟨units state, hvalue⟩, ?_, ?_⟩
  · rw [value_element]
    have := div_nonneg hnonneg (by norm_num : (0 : ℚ) ≤ 2 ^ 23)
    linarith
  · rw [value_element]
    have : (upper state : ℚ) / 2 ^ 23 < 2 := by
      rw [div_lt_iff₀ (by norm_num)]
      exact hupper.trans_eq (by norm_num)
    linarith

/-- The element tells the upper bits. -/
theorem factorsThrough_element : Function.FactorsThrough upper element := by
  intro a b h
  have hvalue : (upper a : ℚ) / 2 ^ 23 - 1 = (upper b : ℚ) / 2 ^ 23 - 1 := by
    rw [← value_element, ← value_element, h]
  have hquotient := sub_left_injective hvalue
  exact_mod_cast (div_left_inj' (by norm_num : (2 : ℚ) ^ 23 ≠ 0)).mp hquotient

/-! ## The elements of a stream -/

/-- Three elements tell where a stream started. -/
theorem eq_of_map_element_eq {a b : UInt64} {count : Nat} (hcount : 3 ≤ count)
    (h : (states a count).map element = (states b count).map element) : a = b := by
  obtain ⟨more, rfl⟩ := Nat.exists_eq_add_of_le' hcount
  obtain ⟨upperOf, hupper⟩ := (Function.factorsThrough_iff upper).mp factorsThrough_element
  have huppers : (states a (more + 3)).map upper = (states b (more + 3)).map upper := by
    rw [hupper, ← List.map_map, h, List.map_map]
  exact eq_of_map_upper_eq huppers

/-- Four elements of a stream are not all the same, unless the stream started from 0. -/
theorem exists_element_ne {hash : UInt64} (hhash : hash ≠ 0) {count : Nat} (hcount : 4 ≤ count)
    (x : Single) : ∃ y ∈ (states hash count).map element, y ≠ x := by
  obtain ⟨more, rfl⟩ := Nat.exists_eq_add_of_le' hcount
  by_contra! hall
  rw [List.forall_mem_map] at hall
  -- The upper bits would be those of the first state everywhere.
  have hfirst : step hash ∈ states hash (more + 4) := List.mem_cons_self
  have hsame : ∀ state ∈ states hash (more + 4), upper state = upper (step hash) :=
    fun state hstate => factorsThrough_element ((hall state hstate).trans (hall _ hfirst).symm)
  exact hhash (eq_zero_of_constant_upper hsame)

/-! ## The streams of texts -/

/-- The generator loses nothing, so streams from different hashes do not meet, and a stream from
another hash than 0 keeps moving. Its elements are computed without an error. -/
theorem streams_apart_elements_exact (dimensions : Nat) :
    Function.Bijective step ∧ (∀ state, step state = 0 ↔ state = 0) ∧
    (∀ text other, seed text ≠ seed other →
      List.Forall₂ (· ≠ ·) (states (seed text) dimensions) (states (seed other) dimensions) ∧
      (3 ≤ dimensions →
        (states (seed text) dimensions).map element ≠
          (states (seed other) dimensions).map element)) ∧
    (∀ hash, hash ≠ 0 →
      (∀ state ∈ states hash dimensions, state ≠ 0 ∧ step state ≠ state) ∧
      (4 ≤ dimensions → ∀ x, ∃ y ∈ (states hash dimensions).map element, y ≠ x)) ∧
    (∀ state, element state =
      Single.ofFloat32 ((state >>> 40).toFloat32 / ((1 : UInt64) <<< 23).toFloat32 - 1.0)) ∧
    ∀ text, ∀ x ∈ (states (seed text) dimensions).map element, OnGrid x := by
  refine ⟨step_bijective, fun state => step_eq_zero_iff, ?_, ?_, element_eq_ofFloat32, ?_⟩
  · intro text other hne
    exact ⟨forall₂_states_ne hne dimensions,
      fun hcount hsame => hne (eq_of_map_element_eq hcount hsame)⟩
  · intro hash hhash
    exact ⟨fun state hstate => moves_of_mem_states hhash hstate,
      fun hcount x => exists_element_ne hhash hcount x⟩
  · intro text x hx
    obtain ⟨state, -, rfl⟩ := List.mem_map.mp hx
    exact onGrid_element state

/-- The streams of two words. -/
theorem streams_apart_elements_exact_of_words :
    seed "Button" ≠ seed "Text" ∧ seed "Button" ≠ 0 ∧
    List.Forall₂ (· ≠ ·) (states (seed "Button") 64) (states (seed "Text") 64) ∧
    (states (seed "Button") 64).map element ≠ (states (seed "Text") 64).map element ∧
    ∃ y ∈ (states (seed "Button") 64).map element, y ≠ Single.zero := by
  have hne : seed "Button" ≠ seed "Text" := by decide +kernel
  have hhash : seed "Button" ≠ 0 := by decide +kernel
  obtain ⟨-, -, hapart, hmoves, -⟩ := streams_apart_elements_exact 64
  obtain ⟨hstates, helements⟩ := hapart _ _ hne
  exact ⟨hne, hhash, hstates, helements (by decide), (hmoves _ hhash).2 (by decide) Single.zero⟩

end CodeSearch.Mock
