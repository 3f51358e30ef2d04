import Mathlib.Data.LawfulXor.Basic
import Mathlib.Data.Nat.Bitwise
import Mathlib.Logic.Function.Basic

/-!
# Linear maps of words

A map of words to numbers is linear if it commutes with exclusive or. A word is the exclusive or of
its single bits, so a linear map is known from its 64 values there, and it tells all words apart if
no choice of these values has the exclusive or 0. This is decided by elimination: each value in turn
takes its highest bit away from those behind it, and none may be 0 when its turn comes.

- `Linear.IsLinear`: the maps that commute with exclusive or.
- `Linear.independent`, `Linear.not_chosen_of_independent`: elimination, and what it says of a
  choice.
- `Linear.IsLinear.eq_chosen`: a linear map at any word from its values at single bits.
- `Linear.IsLinear.injective`: a map with independent values at single bits tells all words apart.
-/

namespace CodeSearch.Linear

theorem xor_xor_xor_comm {α : Type} [XorOp α] [Zero α] [LawfulXor α] (a b c d : α) :
    a ^^^ b ^^^ (c ^^^ d) = a ^^^ c ^^^ (b ^^^ d) := by
  rw [xor_assoc, ← xor_assoc b, xor_comm b, xor_assoc, ← xor_assoc a]

/-! ## Elimination -/

/-- The exclusive or of the values that are chosen. -/
def chosen : List (Bool × Nat) → Nat
  | [] => 0
  | (choice, value) :: rest => (if choice then value else 0) ^^^ chosen rest

/-- Takes the highest bit of `pivot` away from a value, by exclusive or with `pivot`. -/
def clear (pivot value : Nat) : Nat :=
  if value.testBit pivot.log2 then value ^^^ pivot else value

/-- No value is 0 after those before it have taken their highest bits away; there are at most
`length` values. -/
def independent : (length : Nat) → List Nat → Bool
  | _, [] => true
  | 0, _ :: _ => false
  | length + 1, pivot :: rest => pivot != 0 && independent length (rest.map (clear pivot))

theorem clear_zero (pivot : Nat) : clear pivot 0 = 0 := by
  rw [clear, Nat.zero_testBit]
  rfl

theorem clear_self {pivot : Nat} (h : pivot ≠ 0) : clear pivot pivot = 0 := by
  rw [clear, Nat.testBit_log2 h, if_pos rfl, Nat.xor_self]

theorem clear_xor (pivot a b : Nat) : clear pivot (a ^^^ b) = clear pivot a ^^^ clear pivot b := by
  rw [clear, clear, clear, Nat.testBit_xor]
  cases ha : a.testBit pivot.log2 <;> cases hb : b.testBit pivot.log2
  · rfl
  · exact Nat.xor_assoc a b pivot
  · exact Nat.xor_right_comm a b pivot
  · show a ^^^ b = a ^^^ pivot ^^^ (b ^^^ pivot)
    rw [xor_xor_xor_comm, Nat.xor_self, Nat.xor_zero]

theorem chosen_map_clear (pivot : Nat) (choices : List (Bool × Nat)) :
    chosen (choices.map fun choice => (choice.1, clear pivot choice.2)) =
      clear pivot (chosen choices) := by
  induction choices with
  | nil => exact (clear_zero pivot).symm
  | cons choice rest ih =>
    obtain ⟨choice, value⟩ := choice
    rw [List.map_cons, chosen, chosen, clear_xor, ih]
    cases choice with
    | false => rw [if_neg Bool.false_ne_true, if_neg Bool.false_ne_true, clear_zero]
    | true => rw [if_pos rfl, if_pos rfl]

theorem chosen_append_singleton (choices : List (Bool × Nat)) (choice : Bool) (value : Nat) :
    chosen (choices ++ [(choice, value)]) = chosen choices ^^^ if choice then value else 0 := by
  induction choices with
  | nil => exact Nat.xor_comm _ _
  | cons first rest ih =>
    obtain ⟨first, other⟩ := first
    rw [List.cons_append, chosen, chosen, ih, Nat.xor_assoc]

theorem chosen_of_none {choices : List (Bool × Nat)}
    (h : ∀ choice ∈ choices, choice.1 = false) : chosen choices = 0 := by
  induction choices with
  | nil => rfl
  | cons choice rest ih =>
    obtain ⟨choice, value⟩ := choice
    obtain ⟨rfl, hrest⟩ := List.forall_mem_cons.mp h
    rw [chosen, ih hrest, if_neg Bool.false_ne_true, Nat.xor_zero]

/-- The exclusive or of a choice of independent values is 0 only if nothing is chosen. -/
theorem not_chosen_of_independent {length : Nat} {choices : List (Bool × Nat)}
    (hindependent : independent length (choices.map Prod.snd) = true)
    (hzero : chosen choices = 0) : ∀ choice ∈ choices, choice.1 = false := by
  induction length generalizing choices with
  | zero =>
    cases choices with
    | nil => exact fun _ h => absurd h List.not_mem_nil
    | cons choice rest => cases hindependent
  | succ length ih =>
    cases choices with
    | nil => exact fun _ h => absurd h List.not_mem_nil
    | cons first rest =>
      obtain ⟨choice, pivot⟩ := first
      rw [List.map_cons, independent, Bool.and_eq_true, bne_iff_ne] at hindependent
      obtain ⟨hpivot, hrest⟩ := hindependent
      have hcleared : clear pivot (chosen rest) = 0 := by
        have hclear := congrArg (clear pivot) hzero
        rw [chosen, clear_xor, clear_zero] at hclear
        -- The first value is taken away, whether it is chosen or not.
        have hfirst : clear pivot (if choice then pivot else 0) = 0 := by
          cases choice with
          | false => exact clear_zero pivot
          | true => exact clear_self hpivot
        rwa [hfirst, Nat.zero_xor] at hclear
      have hnone : ∀ other ∈ rest, other.1 = false := by
        rw [← chosen_map_clear] at hcleared
        rw [List.map_map] at hrest
        have hall := ih (by rwa [List.map_map]) hcleared
        intro other hother
        exact hall (other.1, clear pivot other.2) (List.mem_map_of_mem hother)
      refine List.forall_mem_cons.mpr ⟨?_, hnone⟩
      rw [chosen, chosen_of_none hnone, Nat.xor_zero] at hzero
      cases choice with
      | false => rfl
      | true => exact absurd hzero hpivot

/-! ## Maps of words -/

/-- The map commutes with exclusive or. -/
def IsLinear (f : UInt64 → Nat) : Prop := ∀ a b, f (a ^^^ b) = f a ^^^ f b

/-- The word with only one bit. -/
def bit (index : Nat) : UInt64 := 1 <<< UInt64.ofNat index

/-- The values at the words with one bit. -/
def valuesAtBits (f : UInt64 → Nat) : List Nat := (List.range 64).map fun index => f (bit index)

theorem toNat_bit {index : Nat} (h : index < 64) : (bit index).toNat = 2 ^ index := by
  have hall : ∀ index < 64, (bit index).toNat = 2 ^ index := by decide +kernel
  exact hall index h

namespace IsLinear

variable {f : UInt64 → Nat}

theorem map_zero (hf : IsLinear f) : f 0 = 0 := by
  have h := hf 0 0
  rwa [UInt64.xor_self, Nat.xor_self] at h

/-- A word is the exclusive or of its bits, so its value is that of the values at these bits. -/
theorem eq_chosen (hf : IsLinear f) {length : Nat} (hlength : length ≤ 64) {word : UInt64}
    (hword : word.toNat < 2 ^ length) :
    f word = chosen ((List.range length).map fun index =>
      (word.toNat.testBit index, f (bit index))) := by
  induction length generalizing word with
  | zero =>
    obtain rfl : word = 0 := UInt64.toNat_inj.mp (Nat.lt_one_iff.mp hword)
    exact hf.map_zero
  | succ length ih =>
    rw [List.range_succ, List.map_append, List.map_singleton, chosen_append_singleton]
    have hbit : (bit length).toNat = 2 ^ length := toNat_bit hlength
    cases htop : word.toNat.testBit length with
    | false =>
      have hbelow : word.toNat < 2 ^ length := by
        refine Nat.lt_pow_two_of_testBit _ fun index hindex => ?_
        rcases Nat.lt_or_eq_of_le hindex with hindex | rfl
        · exact Nat.testBit_lt_two_pow (Nat.lt_of_lt_of_le hword
            (Nat.pow_le_pow_right Nat.two_pos hindex))
        · exact htop
      rw [ih (Nat.le_of_succ_le hlength) hbelow, if_neg Bool.false_ne_true, Nat.xor_zero]
    | true =>
      -- Without its highest bit the word is shorter, and its other bits are the same.
      have hsame : ∀ index, index ≠ length →
          (word ^^^ bit length).toNat.testBit index = word.toNat.testBit index := by
        intro index hindex
        rw [UInt64.toNat_xor, hbit, Nat.testBit_xor, Nat.testBit_two_pow_of_ne hindex.symm,
          Bool.xor_false]
      have hbelow : (word ^^^ bit length).toNat < 2 ^ length := by
        refine Nat.lt_pow_two_of_testBit _ fun index hindex => ?_
        rcases Nat.lt_or_eq_of_le hindex with hindex | rfl
        · rw [hsame index (Nat.ne_of_gt hindex)]
          exact Nat.testBit_lt_two_pow (Nat.lt_of_lt_of_le hword
            (Nat.pow_le_pow_right Nat.two_pos hindex))
        · rw [UInt64.toNat_xor, hbit, Nat.testBit_xor, Nat.testBit_two_pow_self, htop,
            Bool.xor_self]
      have hword : word = (word ^^^ bit length) ^^^ bit length := by
        rw [UInt64.xor_assoc, UInt64.xor_self, UInt64.xor_zero]
      rw [if_pos rfl]
      conv_lhs => rw [hword, hf, ih (Nat.le_of_succ_le hlength) hbelow]
      congr 2
      refine List.map_congr_left fun index hindex => ?_
      rw [hsame index (Nat.ne_of_lt (List.mem_range.mp hindex))]

/-- A linear map with independent values at single bits is 0 only at 0. -/
theorem eq_zero (hf : IsLinear f) (hindependent : independent 64 (valuesAtBits f) = true)
    {word : UInt64} (h : f word = 0) : word = 0 := by
  rw [hf.eq_chosen (Nat.le_refl 64) word.toNat_lt] at h
  have hnone := not_chosen_of_independent (by rw [List.map_map]; exact hindependent) h
  refine UInt64.toNat_inj.mp (Nat.eq_of_testBit_eq fun index => ?_)
  rw [UInt64.toNat_zero, Nat.zero_testBit]
  by_cases hindex : index < 64
  · exact hnone _ (List.mem_map_of_mem (List.mem_range.mpr hindex))
  · exact Nat.testBit_lt_two_pow (Nat.lt_of_lt_of_le word.toNat_lt
      (Nat.pow_le_pow_right Nat.two_pos (Nat.le_of_not_lt hindex)))

/-- A linear map with independent values at single bits tells all words apart. -/
theorem injective (hf : IsLinear f) (hindependent : independent 64 (valuesAtBits f) = true) :
    Function.Injective f := by
  intro a b h
  refine UInt64.xor_eq_zero_iff.mp (hf.eq_zero hindependent ?_)
  rw [hf, h, Nat.xor_self]

end IsLinear

end CodeSearch.Linear
