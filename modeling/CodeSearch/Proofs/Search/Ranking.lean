import CodeSearch.Proofs.Sorting.Stable
import CodeSearch.Search

/-!
# The ranking of hits

Hits are sorted by the total order of singles, in which the two zeros differ, and compared with a
threshold by the order of values, in which they are equal and a NaN is below nothing. On hits that
reach a threshold the first order refines the second one, and so a higher threshold cuts off the
end of a ranking and does nothing else.

- `Single.rank_inj`, `Single.le_of_rank_le`: how the two orders go together.
- `Hit.isOrder_before`, `Hit.ties_iff`: the order by which hits are sorted, and its ties.
- `Hit.IsRanking`: what a ranking is, without a word of how it is made.
- `search_ranked`: a search gives a ranking of its candidates, for every threshold.
-/

namespace CodeSearch

/-! ## Two orders of singles -/

namespace Single

variable {x y z : Single}

theorem isNegative_iff : x.isNegative = true ↔ 0x80000000 ≤ x.bits.toNat := by
  rw [isNegative, decide_eq_true_eq, ge_iff_le, UInt32.le_iff_toNat_le]
  rfl

/-- Only the same bits have the same place in the total order. -/
theorem rank_inj : x.rank = y.rank ↔ x = y := by
  constructor
  · intro h
    have hxlt := x.bits.toNat_lt
    have hylt := y.bits.toNat_lt
    -- With the sign the magnitude makes up all bits.
    have hbits : x.bits.toNat = y.bits.toNat := by
      rw [rank, rank, magnitude, magnitude] at h
      by_cases hx : x.isNegative = true
      · by_cases hy : y.isNegative = true
        · rw [if_pos hx, if_pos hy] at h
          rw [isNegative_iff] at hx hy
          omega
        · rw [if_pos hx, if_neg hy] at h
          omega
      · by_cases hy : y.isNegative = true
        · rw [if_neg hx, if_pos hy] at h
          omega
        · rw [if_neg hx, if_neg hy] at h
          rw [isNegative_iff] at hx hy
          omega
    obtain ⟨a⟩ := x
    obtain ⟨b⟩ := y
    exact congrArg Single.mk (UInt32.toNat_inj.mp hbits)
  · rintro rfl
    rfl

/-- The total order refines the order of values. -/
theorem position_le_of_rank_le (h : x.rank ≤ y.rank) : x.position ≤ y.position := by
  rw [rank, rank] at h
  rw [position, position]
  by_cases hx : x.isNegative = true
  · by_cases hy : y.isNegative = true
    · rw [if_pos hx, if_pos hy] at h ⊢
      omega
    · rw [if_pos hx, if_neg hy] at h ⊢
      omega
  · by_cases hy : y.isNegative = true
    · rw [if_neg hx, if_pos hy] at h ⊢
      omega
    · rw [if_neg hx, if_neg hy] at h ⊢
      omega

theorem le_of_rank_le (hx : x.isNaN = false) (hy : y.isNaN = false) (h : x.rank ≤ y.rank) :
    x.le y = true :=
  le_iff.mpr ⟨hx, hy, position_le_of_rank_le h⟩

end Single

/-! ## Sorted lists of hits -/

namespace Hit

variable {threshold : Single} {found : List Hit}

/-- What reaches a threshold is a number. -/
theorem isNaN_eq_false_of_reaches {hit : Hit} (h : hit.reaches threshold = true) :
    hit.similarity.isNaN = false := (Single.le_iff.mp h).2.1

/-- A hit before one that reaches a threshold reaches it too, unless it is not a number. -/
theorem reaches_of_before {hit next : Hit} (hnumber : hit.similarity.isNaN = false)
    (hbefore : hit.before next = true) (hnext : next.reaches threshold = true) :
    hit.reaches threshold = true := by
  have hle := Single.le_of_rank_le (isNaN_eq_false_of_reaches hnext) hnumber
    (of_decide_eq_true hbefore)
  exact Single.le_trans hnext hle

/-! ## Ties -/

/-- Hits are sorted by an order in which some of them tie. -/
theorem isOrder_before : Sorting.IsOrder before := ⟨before_trans, before_total⟩

/-- Two hits that tie have the same bits as similarity. -/
theorem ties_iff {hit next : Hit} :
    (hit.before next && next.before hit) = true ↔ next.similarity = hit.similarity := by
  rw [Bool.and_eq_true, before, before, decide_eq_true_eq, decide_eq_true_eq, ← Single.rank_inj]
  omega

/-- The hits with the given similarity, bit for bit. -/
def tiesAt (similarity : Single) (found : List Hit) : List Hit :=
  found.filter fun hit => hit.similarity = similarity

/-- Sorting does not change the order of ties. -/
theorem tiesAt_mergeSort (similarity : Single) (offered : List Hit) :
    tiesAt similarity (offered.mergeSort before) = tiesAt similarity offered := by
  have hties : ∀ hits : List Hit,
      tiesAt similarity hits = Sorting.tiesOf before { record := default, similarity } hits := by
    intro hits
    refine List.filter_congr fun hit _ => ?_
    rw [Bool.eq_iff_iff, decide_eq_true_eq, ties_iff]
  rw [hties, hties, Sorting.tiesOf_mergeSort isOrder_before]

/-! ## Sorting -/

/-- Of hits that are numbers, those that reach a threshold come first when they are sorted. -/
theorem filter_reaches_prefix (hsorted : found.Pairwise fun hit next => hit.before next = true)
    (hnumbers : ∀ hit ∈ found, hit.similarity.isNaN = false) (threshold : Single) :
    found.filter (reaches threshold) <+: found := by
  induction found with
  | nil => exact List.prefix_refl []
  | cons hit found ih =>
    rw [List.pairwise_cons] at hsorted
    by_cases hreaches : hit.reaches threshold = true
    · rw [List.filter_cons_of_pos hreaches, List.prefix_cons_inj]
      exact ih hsorted.2 fun next hnext => hnumbers next (List.mem_cons_of_mem _ hnext)
    · -- What comes after a hit that does not reach the threshold does not reach it either.
      have hnone : (hit :: found).filter (reaches threshold) = [] := by
        rw [List.filter_cons_of_neg hreaches, List.filter_eq_nil_iff]
        intro next hnext hreached
        exact hreaches
          (reaches_of_before (hnumbers hit List.mem_cons_self) (hsorted.1 next hnext) hreached)
      rw [hnone]
      exact List.nil_prefix

/-- Some hits are a ranking of those that were offered: the ones that reach the threshold, in an
order in which the similarity does not increase, and in which those with the same similarity, bit
for bit, stand as they were offered. -/
structure IsRanking (threshold : Single) (offered found : List Hit) : Prop where
  perm : found.Perm (offered.filter (reaches threshold))
  descending : found.Pairwise fun hit next => next.similarity.le hit.similarity = true
  ties : ∀ similarity,
    tiesAt similarity found = tiesAt similarity (offered.filter (reaches threshold))

namespace IsRanking

variable {offered : List Hit}

/-- A ranking holds no similarity that is not a number. -/
theorem isNaN_eq_false (h : IsRanking threshold offered found) {hit : Hit} (hhit : hit ∈ found) :
    hit.similarity.isNaN = false :=
  isNaN_eq_false_of_reaches (List.mem_filter.mp (h.perm.mem_iff.mp hhit)).2

/-- Nothing reaches a threshold that is not a number. -/
theorem eq_nil (h : IsRanking threshold offered found) (hthreshold : threshold.isNaN = true) :
    found = [] := by
  refine List.eq_nil_iff_forall_not_mem.mpr fun hit hhit => ?_
  have hnumber := (Single.le_iff.mp (List.mem_filter.mp (h.perm.mem_iff.mp hhit)).2).1
  rw [hthreshold] at hnumber
  cases hnumber

end IsRanking

end Hit

/-! ## Searches -/

variable {query : Vector} {threshold : Single} {candidates : List Record}

theorem isNaN_eq_false_of_mem_hits {hit : Hit} (h : hit ∈ hits query threshold candidates) :
    hit.similarity.isNaN = false :=
  Hit.isNaN_eq_false_of_reaches
    (List.mem_filter.mp ((hits_perm query threshold candidates).mem_iff.mp h)).2

theorem isRanking_hits (query : Vector) (threshold : Single) (candidates : List Record) :
    Hit.IsRanking threshold (candidates.map (Hit.of query)) (hits query threshold candidates) where
  perm := hits_perm query threshold candidates
  descending := by
    refine (Sorting.sorted_mergeSort Hit.isOrder_before _).imp_of_mem ?_
    intro hit next hhit hnext hbefore
    exact Single.le_of_rank_le (isNaN_eq_false_of_mem_hits hnext) (isNaN_eq_false_of_mem_hits hhit)
      (of_decide_eq_true hbefore)
  ties := fun similarity => Hit.tiesAt_mergeSort similarity _

/-- The hits of a higher threshold are those of a lower one that reach it. -/
theorem hits_eq_filter_of_le {low high : Single} (h : low.le high = true) :
    hits query high candidates = (hits query low candidates).filter (Hit.reaches high) := by
  have hreaches : (candidates.map (Hit.of query)).filter (Hit.reaches high) =
      ((candidates.map (Hit.of query)).filter (Hit.reaches low)).filter (Hit.reaches high) := by
    rw [List.filter_filter]
    refine List.filter_congr fun hit _ => ?_
    rw [Bool.eq_iff_iff, Bool.and_eq_true, iff_self_and]
    exact Single.le_trans h
  rw [hits, hits, Sorting.filter_mergeSort Hit.isOrder_before, hreaches]

theorem hits_prefix {low high : Single} (h : low.le high = true) :
    hits query high candidates <+: hits query low candidates := by
  rw [hits_eq_filter_of_le h]
  exact Hit.filter_reaches_prefix (Sorting.sorted_mergeSort Hit.isOrder_before _)
    (fun _ => isNaN_eq_false_of_mem_hits) high

/-- A search fails as its store does. Otherwise it gives, for every threshold, a ranking of the
candidates with their similarities, without any that is not a number and with nothing at all for a
threshold that is none; and a higher threshold cuts off the end of the ranking. -/
theorem search_ranked {ε σ τ : Type} (store : ChunkStore ε σ) (provider : Provider τ)
    (query : String) (limit : Nat) (content : σ) (state : τ) :
    let vector := (provider.embedOrZero query state).1
    let outcome := fun threshold =>
      (search store provider query limit threshold content state).1
    (∀ error, store.nearest vector limit content = .error error →
      ∀ threshold, outcome threshold = .error error) ∧
    ∀ candidates, store.nearest vector limit content = .ok candidates →
      let offered : List Hit := candidates.map fun record =>
        { record, similarity := Vector.cosine vector record.embedding }
      ∃ found : Single → List Hit,
        (∀ threshold, outcome threshold = .ok (found threshold)) ∧
        (∀ threshold, Hit.IsRanking threshold offered (found threshold)) ∧
        (∀ threshold, ∀ hit ∈ found threshold, hit.similarity.isNaN = false) ∧
        (∀ threshold, threshold.isNaN = true → found threshold = []) ∧
        ∀ low high, low.le high = true → found high <+: found low := by
  intro vector outcome
  constructor
  · exact fun error herror => search_eq_error herror
  · intro candidates hcandidates offered
    have hranking := fun threshold => isRanking_hits vector threshold candidates
    refine ⟨fun threshold => hits vector threshold candidates, search_eq_ok hcandidates, hranking,
      ?_, ?_, ?_⟩
    · intro threshold hit
      exact (hranking threshold).isNaN_eq_false
    · intro threshold
      exact (hranking threshold).eq_nil
    · intro low high hle
      exact hits_prefix hle

/-- Two candidates with vectors of other lengths than that of the query are equally similar to it.
They reach the threshold +0, and just as well -0. -/
theorem search_ranked_of_two :
    let store : ChunkStore Unit (List Record) :=
      { append := fun record records => (.ok (), records ++ [record])
        nearest := fun _ limit records => .ok (records.take limit)
        keyword := fun _ _ _ => .error ()
        statistics := fun _ => .error () }
    let provider : Provider Unit := Provider.ofFunction 2 fun _ => .error .missingApiKey
    let first : Record := { (default : Record) with id := "a" }
    let second : Record := { (default : Record) with id := "b", embedding := [Single.zero] }
    let outcome := fun threshold =>
      (search store provider "query" 2 threshold [first, second] ()).1
    ∃ found found', outcome Single.zero = .ok found ∧ outcome ⟨0x80000000⟩ = .ok found' ∧
      found.Perm [⟨first, Single.zero⟩, ⟨second, Single.zero⟩] ∧
      found <+: found' ∧ found' <+: found := by
  intro store provider first second outcome
  obtain ⟨found, hfound, hranking, -, -, hprefix⟩ :=
    (search_ranked store provider "query" 2 [first, second] ()).2 [first, second] rfl
  refine ⟨found Single.zero, found ⟨0x80000000⟩, hfound _, hfound _, ?_, ?_, ?_⟩
  · exact (hranking Single.zero).perm.trans (.of_eq rfl)
  · exact hprefix _ _ (by decide)
  · exact hprefix _ _ (by decide)

end CodeSearch
