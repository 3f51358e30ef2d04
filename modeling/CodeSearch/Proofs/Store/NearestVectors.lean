import CodeSearch.Proofs.Sorting.Stable
import CodeSearch.Store.VectorTable
import Mathlib.Data.List.Induction
import Mathlib.Data.List.Nodup
import Mathlib.Data.List.Perm.Basic

/-!
# The nearest vectors of a table

The vectors nearest to a query are picked one by one from each block, and the blocks are merged one
after the other, with no more than the number asked for in hand. It comes to the same as ranking all
vectors of the table at once and taking the first of them, as long as every vector has a distance
from the query.

- `VectorTable.ranking`: all vectors of a table, nearest first. Of those that are equally near, the
  ones in older blocks come first, and in a block the ones in higher slots.
- `VectorTable.pickNearest_eq`: picking from one block.
- `VectorTable.foldl_candidates`: merging the blocks; the invariant is that the beginning of the
  ranking of all blocks so far is in hand.
- `VectorTable.nearest_eq`: the nearest vectors are the beginning of the ranking.
-/

namespace CodeSearch

namespace VectorTable

open Sorting (IsOrder Sorted)

variable {query : Vector} {items : List Ranked} {table : VectorTable}

/-! ## The order by distance -/

/-- The order of distances, which is total on all singles. -/
def closer (a b : Ranked) : Bool := a.distance.position ≤ b.distance.position

theorem isOrder_closer : IsOrder closer where
  trans := by
    intro a b c hab hbc
    rw [closer, decide_eq_true_eq] at *
    omega
  total := by
    intro a b
    rw [Bool.or_eq_true, closer, closer, decide_eq_true_eq, decide_eq_true_eq]
    omega

/-- Every distance is a number. -/
def IsMeasured (items : List Ranked) : Prop := ∀ item ∈ items, item.distance.isNaN = false

/-- Distances that are numbers are in the order of their values. -/
theorem le_eq_closer {a b : Ranked} (ha : a.distance.isNaN = false)
    (hb : b.distance.isNaN = false) : a.distance.le b.distance = closer a b := by
  rw [Single.le, ha, hb, closer]
  rfl

/-! ## Picking from a block -/

/-- The best of some candidates is the last one of the nearest: nothing before it is nearer, and
everything behind it is farther. -/
theorem exists_best (first : Ranked) (rest : List Ranked) (h : IsMeasured (first :: rest)) :
    ∃ before after, first :: rest = before ++ rest.foldl nearer first :: after ∧
      (∀ other ∈ before ++ after, closer (rest.foldl nearer first) other = true) ∧
      ∀ other ∈ after, ¬ closer other (rest.foldl nearer first) = true := by
  induction rest using List.reverseRecOn with
  | nil => exact ⟨[], [], rfl, by simp, by simp⟩
  | append_singleton rest next ih =>
    have hrest : IsMeasured (first :: rest) := fun item hitem =>
      h item (List.cons_subset_cons first (List.subset_append_left rest [next]) hitem)
    have hnext : next.distance.isNaN = false := h next (by simp)
    obtain ⟨before, after, hsplit, hnearest, hfarther⟩ := ih hrest
    rw [List.foldl_append, List.foldl_cons, List.foldl_nil]
    generalize rest.foldl nearer first = best at *
    have hbest : best.distance.isNaN = false := hrest best (by rw [hsplit]; simp)
    rw [← List.cons_append, hsplit, nearer, le_eq_closer hnext hbest]
    split
    · next hcloser =>
      refine ⟨before ++ best :: after, [], by simp, ?_, by simp⟩
      -- What was not nearer than the best so far is not nearer than one that is as near.
      intro other hother
      rw [List.append_nil] at hother
      have hother' : other = best ∨ other ∈ before ++ after := by
        simpa [or_left_comm] using hother
      rcases hother' with rfl | hother'
      · exact hcloser
      · exact isOrder_closer.trans _ _ _ hcloser (hnearest other hother')
    · next hcloser =>
      refine ⟨before, after ++ [next], by simp, ?_, ?_⟩
      · intro other hother
        rw [← List.append_assoc, List.mem_append, List.mem_singleton] at hother
        rcases hother with hother | rfl
        · exact hnearest other hother
        · exact isOrder_closer.of_not hcloser
      · intro other hother
        rw [List.mem_append, List.mem_singleton] at hother
        rcases hother with hother | rfl
        · exact hfarther other hother
        · exact hcloser

/-- Picking the nearest candidates one by one gives the beginning of their ranking. -/
theorem pickNearest_eq (count : Nat) (hitems : IsMeasured items)
    (hdistinct : (items.map Ranked.number).Nodup) :
    pickNearest count items = (items.reverse.mergeSort closer).take count := by
  induction count generalizing items with
  | zero => rfl
  | succ count ih =>
    cases items with
    | nil => rw [pickNearest, List.reverse_nil, List.mergeSort_nil, List.take_nil]
    | cons first rest =>
      obtain ⟨before, after, hsplit, hnearest, hfarther⟩ := exists_best first rest hitems
      rw [pickNearest]
      generalize rest.foldl nearer first = best at *
      rw [hsplit] at hitems hdistinct ⊢
      -- The numbers differ, so only the best one is taken away.
      have hleft : (before ++ best :: after).filter (fun other => other.number != best.number) =
          before ++ after := by
        rw [List.map_append, List.map_cons] at hdistinct
        have hother := (List.nodup_middle.mp hdistinct)
        rw [List.nodup_cons, ← List.map_append] at hother
        have hkept : ∀ other ∈ before ++ after, (other.number != best.number) = true := by
          intro other hother'
          refine bne_iff_ne.mpr fun heq => hother.1 ?_
          rw [← heq]
          exact List.mem_map_of_mem hother'
        rw [List.filter_append, List.filter_cons_of_neg (by simp), ← List.filter_append]
        exact List.filter_eq_self.mpr hkept
      have hsub : (before ++ after).Sublist (before ++ best :: after) :=
        (List.sublist_cons_self best after).append_left before
      have hreverse :
          (before ++ best :: after).reverse = after.reverse ++ best :: before.reverse := by simp
      rw [hleft, ih (fun item hitem => hitems item (hsub.subset hitem))
          (hdistinct.sublist (hsub.map _)), hreverse,
        Sorting.mergeSort_of_first isOrder_closer ?_ ?_, List.take_succ_cons,
        ← List.reverse_append]
      · intro other hother
        refine hnearest other ?_
        simpa [or_comm] using hother
      · intro other hother
        exact hfarther other (List.mem_reverse.mp hother)

/-! ## Merging blocks -/

/-- The candidates of a block in the order in which equally near ones are taken. -/
def offered (query : Vector) (block : Block) : List Ranked := (rank query block).reverse

/-- All vectors of a table, nearest first. Of those that are equally near, the ones in older blocks
come first, and in a block the ones in higher slots. -/
def ranking (table : VectorTable) (query : Vector) : List Ranked :=
  (table.blocks.flatMap (offered query)).mergeSort closer

/-- Candidates with a distance are merged by distance. -/
theorem mergeRanked_eq {found later : List Ranked} (hfound : IsMeasured found)
    (hlater : IsMeasured later) : mergeRanked found later = found.merge later closer := by
  have hmap := List.map_merge (f := id) (s := closer) fun a ha b hb =>
    le_eq_closer (hfound a ha) (hlater b hb)
  simpa [mergeRanked] using hmap

/-- Every vector of the block has a distance from the query, and a number of its own. -/
structure IsRankable (query : Vector) (block : Block) : Prop where
  measured : IsMeasured (offered query block)
  distinct : ((Block.slots block).map Slot.number).Nodup

theorem IsRankable.pickNearest_eq {block : Block} (h : IsRankable query block) (count : Nat) :
    pickNearest count (rank query block) = ((offered query block).mergeSort closer).take count := by
  refine VectorTable.pickNearest_eq count ?_ ?_
  · exact fun item hitem => h.measured item (List.mem_reverse.mpr hitem)
  · have hnumbers : (rank query block).map Ranked.number = (Block.slots block).map Slot.number := by
      rw [rank, List.map_map]
      rfl
    rw [hnumbers]
    exact h.distinct

/-- With the beginning of the ranking of some vectors in hand, merging further blocks gives the
beginning of the ranking of all. -/
theorem foldl_candidates (count : Nat) {done : List Ranked} (hdone : IsMeasured done)
    {blocks : List Block} (hblocks : ∀ block ∈ blocks, IsRankable query block) :
    blocks.foldl (fun found block =>
        (mergeRanked found (pickNearest count (rank query block))).take count)
      ((done.mergeSort closer).take count) =
      ((done ++ blocks.flatMap (offered query)).mergeSort closer).take count := by
  induction blocks generalizing done with
  | nil => rw [List.flatMap_nil, List.append_nil, List.foldl_nil]
  | cons block blocks ih =>
    have hblock := hblocks block List.mem_cons_self
    have hsorted : ∀ {items : List Ranked}, IsMeasured items →
        IsMeasured ((items.mergeSort closer).take count) := fun hitems item hitem =>
      hitems item (List.mem_mergeSort.mp (List.mem_of_mem_take hitem))
    have hmore : IsMeasured (done ++ offered query block) := by
      intro item hitem
      rcases List.mem_append.mp hitem with hitem | hitem
      · exact hdone item hitem
      · exact hblock.measured item hitem
    rw [List.foldl_cons, hblock.pickNearest_eq, mergeRanked_eq (hsorted hdone)
        (hsorted hblock.measured), Sorting.take_merge closer (Nat.le_refl _) (Nat.le_refl _),
      Sorting.merge_mergeSort isOrder_closer,
      ih hmore fun other hother => hblocks other (List.mem_cons_of_mem _ hother),
      List.append_assoc, ← List.flatMap_cons]

/-! ## The ranking of a table -/

/-- The number and the distance of the vector in a slot. -/
def ranked (query : Vector) (slot : Slot) : Ranked :=
  ⟨slot.number, Vector.distance (Vector.decode slot.bytes) query⟩

/-- The ranking of a table holds each of its vectors once. -/
theorem ranking_perm (table : VectorTable) (query : Vector) :
    (table.ranking query).Perm (table.slots.map (ranked query)) := by
  refine (List.mergeSort_perm _ _).trans ?_
  rw [slots, List.map_flatMap]
  refine List.Perm.flatMap_left _ fun block _ => ?_
  exact List.reverse_perm _

theorem sorted_ranking (table : VectorTable) (query : Vector) :
    Sorted closer (table.ranking query) :=
  Sorting.sorted_mergeSort isOrder_closer _

/-- The nearest vectors are the beginning of the ranking. -/
theorem nearest_eq (hdistinct : (table.slots.map Slot.number).Nodup)
    (hmeasured : ∀ slot ∈ table.slots,
      (Vector.distance (Vector.decode slot.bytes) query).isNaN = false) (count : Nat) :
    table.nearest query count = ((table.ranking query).take count).map Ranked.number := by
  have hblocks : ∀ block ∈ table.blocks, IsRankable query block := by
    intro block hblock
    have hslots : ∀ slot ∈ Block.slots block, slot ∈ table.slots := fun slot hslot =>
      List.mem_flatMap.mpr ⟨block, hblock, hslot⟩
    refine ⟨?_, ?_⟩
    · intro item hitem
      obtain ⟨slot, hslot, rfl⟩ := List.mem_map.mp (List.mem_reverse.mp hitem)
      exact hmeasured slot (hslots slot hslot)
    · rw [slots, List.map_flatMap] at hdistinct
      exact (List.nodup_flatMap.mp hdistinct).1 block hblock
  have hcandidates : table.candidates query count = (table.ranking query).take count := by
    have hnone : IsMeasured [] := fun _ h => absurd h List.not_mem_nil
    have hfold := foldl_candidates count hnone hblocks
    rw [List.mergeSort_nil, List.take_nil, List.nil_append] at hfold
    exact hfold
  -- What was found is in order already, and sorting it again changes nothing.
  have hsorted : ((table.ranking query).take count).Pairwise fun a b =>
      Ranked.notAfter a b = true := by
    refine ((sorted_ranking table query).sublist (List.take_sublist _ _)).imp_of_mem ?_
    intro a b ha hb hcloser
    have hnumber : ∀ item ∈ (table.ranking query).take count, item.distance.isNaN = false := by
      intro item hitem
      have hmem := (table.ranking_perm query).mem_iff.mp (List.mem_of_mem_take hitem)
      obtain ⟨slot, hslot, rfl⟩ := List.mem_map.mp hmem
      exact hmeasured slot hslot
    rw [Ranked.notAfter, le_eq_closer (hnumber a ha) (hnumber b hb), hcloser, hnumber b hb]
    exact Bool.or_true _
  rw [nearest, hcandidates, List.mergeSort_of_pairwise hsorted]

end VectorTable

end CodeSearch
