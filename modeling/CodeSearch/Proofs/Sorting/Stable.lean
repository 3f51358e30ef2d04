/-!
# Sorting without changing the order of ties

A sorted list is given by its ties: by the lists of those of its members that may stand on either
side of each other, in their order. Merging and sorting do not touch the order of ties, and so what
they give is known as soon as it is sorted and has the right ties.

- `IsOrder`: a Boolean order to sort by, in which members may tie.
- `tiesOf_merge`, `tiesOf_mergeSort`: what becomes of ties.
- `eq_of_tiesOf_eq`: a sorted list is given by its ties. All equations below come from it.
- `filter_mergeSort`, `merge_mergeSort`, `mergeSort_of_first`: sorting a part, two parts, and a list
  of which the first member is known.
- `take_merge`, `mergeSort_sublist`: the beginning of a merged list, and what sorting makes of the
  beginning of a list.
-/

namespace CodeSearch

namespace Sorting

variable {α : Type} {le : α → α → Bool} {a : α} {left right found other items : List α}

/-- An order to sort by. Two members that may stand on either side of each other tie. -/
structure IsOrder (le : α → α → Bool) : Prop where
  trans : ∀ a b c, le a b = true → le b c = true → le a c = true
  total : ∀ a b, (le a b || le b a) = true

namespace IsOrder

theorem refl (h : IsOrder le) (a : α) : le a a = true := by
  simpa using h.total a a

/-- What may not stand before another one may stand behind it. -/
theorem of_not (h : IsOrder le) {a b : α} (hab : ¬ le a b = true) : le b a = true := by
  have htotal := h.total a b
  rw [Bool.or_eq_true] at htotal
  exact htotal.resolve_left hab

end IsOrder

/-- The list is sorted. -/
def Sorted (le : α → α → Bool) (items : List α) : Prop :=
  items.Pairwise fun a b => le a b = true

theorem sorted_mergeSort (h : IsOrder le) (items : List α) : Sorted le (items.mergeSort le) :=
  List.pairwise_mergeSort h.trans h.total items

/-! ## Ties -/

/-- The members of a list that tie with `a`, in their order. -/
def tiesOf (le : α → α → Bool) (a : α) (items : List α) : List α :=
  items.filter fun b => le a b && le b a

theorem mem_tiesOf {b : α} :
    b ∈ tiesOf le a items ↔ b ∈ items ∧ le a b = true ∧ le b a = true := by
  rw [tiesOf, List.mem_filter, Bool.and_eq_true]

theorem tiesOf_append : tiesOf le a (left ++ right) = tiesOf le a left ++ tiesOf le a right :=
  List.filter_append _ _

theorem tiesOf_cons_of_tie {b : α} (hab : le a b = true) (hba : le b a = true) :
    tiesOf le a (b :: items) = b :: tiesOf le a items :=
  List.filter_cons_of_pos (by rw [hab, hba]; rfl)

theorem tiesOf_cons_of_not {b : α} (h : ¬ (le a b = true ∧ le b a = true)) :
    tiesOf le a (b :: items) = tiesOf le a items :=
  List.filter_cons_of_neg (by rwa [Bool.and_eq_true])

/-- Merging puts the ties of the second list behind those of the first one. -/
theorem tiesOf_merge (h : IsOrder le) (hleft : Sorted le left) :
    tiesOf le a (left.merge right le) = tiesOf le a left ++ tiesOf le a right := by
  fun_induction List.merge left right le with
  | case1 right => rfl
  | case2 left => exact (List.append_nil _).symm
  | case3 x xs y ys hxy ih =>
    have hrest := ih hleft.of_cons
    by_cases htie : le a x = true ∧ le x a = true
    · rw [tiesOf_cons_of_tie htie.1 htie.2, tiesOf_cons_of_tie htie.1 htie.2, hrest,
        List.cons_append]
    · rw [tiesOf_cons_of_not htie, tiesOf_cons_of_not htie, hrest]
  | case4 x xs y ys hxy ih =>
    have hrest := ih hleft
    by_cases htie : le a y = true ∧ le y a = true
    · -- What comes before everything in the first list ties with nothing in it.
      have hnone : tiesOf le a (x :: xs) = [] := by
        refine List.filter_eq_nil_iff.mpr fun b hb hba => hxy ?_
        rw [Bool.and_eq_true] at hba
        refine h.trans x b y ?_ (h.trans b a y hba.2 htie.1)
        rcases List.mem_cons.mp hb with rfl | hb
        · exact h.refl b
        · exact List.rel_of_pairwise_cons hleft hb
      rw [tiesOf_cons_of_tie htie.1 htie.2, tiesOf_cons_of_tie htie.1 htie.2, hrest, hnone,
        List.nil_append, List.nil_append]
    · rw [tiesOf_cons_of_not htie, tiesOf_cons_of_not htie, hrest]

/-- Sorting does not change the order of ties. -/
theorem tiesOf_mergeSort (h : IsOrder le) :
    tiesOf le a (items.mergeSort le) = tiesOf le a items := by
  have hsorted : Sorted le (tiesOf le a items) := by
    refine List.pairwise_of_forall_mem_list fun b hb c hc => ?_
    exact h.trans b a c (mem_tiesOf.mp hb).2.2 (mem_tiesOf.mp hc).2.1
  -- The ties are a sorted sublist, and sorting does not tear one apart.
  have hsublist : (tiesOf le a items).Sublist (items.mergeSort le) :=
    List.sublist_mergeSort h.trans h.total hsorted List.filter_sublist
  have hties : (tiesOf le a items).Sublist (tiesOf le a (items.mergeSort le)) := by
    have hself : (tiesOf le a items).filter (fun b => le a b && le b a) = tiesOf le a items :=
      List.filter_eq_self.mpr fun b hb => (List.mem_filter.mp hb).2
    have hfiltered := hsublist.filter fun b => le a b && le b a
    rwa [hself] at hfiltered
  have hlength := ((List.mergeSort_perm items le).filter fun b => le a b && le b a).length_eq
  exact (hties.eq_of_length hlength.symm).symm

/-! ## Sorted lists -/

theorem mem_iff_of_tiesOf_eq (h : IsOrder le)
    (hties : ∀ a, tiesOf le a found = tiesOf le a other) (a : α) : a ∈ found ↔ a ∈ other := by
  have hmem : a ∈ tiesOf le a found ↔ a ∈ tiesOf le a other := by rw [hties]
  rwa [mem_tiesOf, mem_tiesOf, and_iff_left ⟨h.refl a, h.refl a⟩,
    and_iff_left ⟨h.refl a, h.refl a⟩] at hmem

/-- A sorted list is given by its ties. -/
theorem eq_of_tiesOf_eq (h : IsOrder le) (hfound : Sorted le found) (hother : Sorted le other)
    (hties : ∀ a, tiesOf le a found = tiesOf le a other) : found = other := by
  have hmem := mem_iff_of_tiesOf_eq h hties
  induction found generalizing other with
  | nil =>
    refine (List.eq_nil_iff_forall_not_mem.mpr fun a ha => ?_).symm
    exact List.not_mem_nil ((hmem a).mpr ha)
  | cons b found ih =>
    cases other with
    | nil => exact absurd ((hmem b).mp List.mem_cons_self) List.not_mem_nil
    | cons c other =>
      -- Each of the two first members may stand before the other one.
      have hbc : le b c = true := by
        rcases List.mem_cons.mp ((hmem c).mpr List.mem_cons_self) with rfl | hc
        · exact h.refl c
        · exact List.rel_of_pairwise_cons hfound hc
      have hcb : le c b = true := by
        rcases List.mem_cons.mp ((hmem b).mp List.mem_cons_self) with rfl | hb
        · exact h.refl b
        · exact List.rel_of_pairwise_cons hother hb
      -- So they head the same ties, and are one.
      have hhead := hties b
      rw [tiesOf_cons_of_tie (h.refl b) (h.refl b), tiesOf_cons_of_tie hbc hcb] at hhead
      obtain ⟨rfl, -⟩ := List.cons.inj hhead
      have hrest : ∀ a, tiesOf le a found = tiesOf le a other := by
        intro a
        have hall := hties a
        by_cases htie : le a b = true ∧ le b a = true
        · rw [tiesOf_cons_of_tie htie.1 htie.2, tiesOf_cons_of_tie htie.1 htie.2] at hall
          exact (List.cons.inj hall).2
        · rwa [tiesOf_cons_of_not htie, tiesOf_cons_of_not htie] at hall
      rw [ih hfound.of_cons hother.of_cons hrest (mem_iff_of_tiesOf_eq h hrest)]

/-- Leaving out members after sorting is sorting without them. -/
theorem filter_mergeSort (h : IsOrder le) (keep : α → Bool) (items : List α) :
    (items.mergeSort le).filter keep = (items.filter keep).mergeSort le := by
  refine eq_of_tiesOf_eq h ((sorted_mergeSort h items).filter keep) (sorted_mergeSort h _) ?_
  intro a
  have hswap : ∀ items : List α,
      tiesOf le a (items.filter keep) = (tiesOf le a items).filter keep := by
    intro items
    rw [tiesOf, tiesOf, List.filter_filter, List.filter_filter]
    exact List.filter_congr fun b _ => Bool.and_comm _ _
  rw [tiesOf_mergeSort h, hswap, hswap, tiesOf_mergeSort h]

/-- Merging two lists that were sorted is sorting both together. -/
theorem merge_mergeSort (h : IsOrder le) (left right : List α) :
    (left.mergeSort le).merge (right.mergeSort le) le = (left ++ right).mergeSort le := by
  refine eq_of_tiesOf_eq h ?_ (sorted_mergeSort h _) fun a => ?_
  · exact List.pairwise_merge h.trans h.total _ _ (sorted_mergeSort h left)
      (sorted_mergeSort h right)
  · rw [tiesOf_merge h (sorted_mergeSort h left), tiesOf_mergeSort h, tiesOf_mergeSort h,
      tiesOf_mergeSort h, tiesOf_append]

/-- What may stand before everything else, and not behind anything that came before it, comes
first. -/
theorem mergeSort_of_first (h : IsOrder le) (hfirst : ∀ b ∈ left ++ right, le a b = true)
    (hleft : ∀ b ∈ left, ¬ le b a = true) :
    (left ++ a :: right).mergeSort le = a :: (left ++ right).mergeSort le := by
  refine eq_of_tiesOf_eq h (sorted_mergeSort h _) ?_ fun b => ?_
  · refine List.pairwise_cons.mpr ⟨fun b hb => ?_, sorted_mergeSort h _⟩
    exact hfirst b (List.mem_mergeSort.mp hb)
  · rw [tiesOf_mergeSort h, tiesOf_append]
    by_cases htie : le b a = true ∧ le a b = true
    · -- Nothing that came before ties with it.
      have hnone : tiesOf le b left = [] := by
        refine List.filter_eq_nil_iff.mpr fun c hc hbc => hleft c hc ?_
        rw [Bool.and_eq_true] at hbc
        exact h.trans c b a hbc.2 htie.1
      rw [tiesOf_cons_of_tie htie.1 htie.2, tiesOf_cons_of_tie htie.1 htie.2, tiesOf_mergeSort h,
        tiesOf_append, hnone, List.nil_append, List.nil_append]
    · rw [tiesOf_cons_of_not htie, tiesOf_cons_of_not htie, tiesOf_mergeSort h, tiesOf_append]

/-! ## Beginnings -/

/-- The beginning of a merged list only needs as much of the two lists. -/
theorem take_merge (le : α → α → Bool) {count fromLeft fromRight : Nat}
    (hleft : count ≤ fromLeft) (hright : count ≤ fromRight) (left right : List α) :
    ((left.take fromLeft).merge (right.take fromRight) le).take count =
      (left.merge right le).take count := by
  induction count generalizing fromLeft fromRight left right with
  | zero => rfl
  | succ count ih =>
    obtain ⟨fromLeft, rfl⟩ :=
      Nat.exists_eq_add_of_le' (Nat.le_trans (Nat.le_add_left 1 _) hleft)
    obtain ⟨fromRight, rfl⟩ :=
      Nat.exists_eq_add_of_le' (Nat.le_trans (Nat.le_add_left 1 _) hright)
    cases left with
    | nil =>
      rw [List.take_nil, List.nil_merge, List.nil_merge, List.take_take, Nat.min_eq_left hright]
    | cons x xs =>
      cases right with
      | nil =>
        rw [List.take_nil, List.merge_right, List.merge_right, List.take_take,
          Nat.min_eq_left hleft]
      | cons y ys =>
        rw [List.take_succ_cons, List.take_succ_cons, List.cons_merge_cons, List.cons_merge_cons]
        split
        · rw [List.take_succ_cons, List.take_succ_cons, ← List.take_succ_cons (a := y),
            ih (by omega) (by omega)]
        · rw [List.take_succ_cons, List.take_succ_cons, ← List.take_succ_cons (a := x),
            ih (by omega) (by omega)]

theorem sublist_merge_left (le : α → α → Bool) (left right : List α) :
    left.Sublist (left.merge right le) := by
  fun_induction List.merge left right le with
  | case1 right => exact List.nil_sublist _
  | case2 left => exact .refl _
  | case3 x xs y ys hxy ih => exact ih.cons_cons x
  | case4 x xs y ys hxy ih => exact ih.cons y

/-- Sorting the beginning of a list gives a part of what sorting the list gives, in its order. -/
theorem mergeSort_sublist (h : IsOrder le) (hbegins : found <+: other) :
    (found.mergeSort le).Sublist (other.mergeSort le) := by
  obtain ⟨more, rfl⟩ := hbegins
  rw [← merge_mergeSort h]
  exact sublist_merge_left le _ _

end Sorting

end CodeSearch
