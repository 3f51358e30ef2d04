import CodeSearch.Proofs.Search.Ranking
import CodeSearch.Proofs.Store.NearestRecords

/-!
# The limit of a search

The limit of a search bounds its candidates. With a larger limit more candidates come in, and each
of them may land anywhere in the ranking of the hits; but the hits that were there stay, in their
order, as long as the store gives the same candidates first.

- `ChunkStore.IsCumulative`, `ChunkStore.IsLimited`: what is asked of the store.
- `Handle.isLimited_store`, `Session.Keeps.isCumulative_store`: an open table is such a store.
- `search_sublist`: the hits under two limits; `search_of_unlimited`: where a store does not keep to
  the limit, or gives no answer.
-/

namespace CodeSearch

/-! ## Stores -/

namespace ChunkStore

variable {ε σ : Type}

/-- The store never gives more records for a query than it is asked for. -/
def IsLimited (store : ChunkStore ε σ) (query : Vector) (content : σ) : Prop :=
  ∀ limit found, store.nearest query limit content = .ok found → found.length ≤ limit

/-- What the store gives for a query under one limit is the beginning of what it gives under a
larger one. -/
def IsCumulative (store : ChunkStore ε σ) (query : Vector) (content : σ) : Prop :=
  ∀ small large, small ≤ large → ∀ few many, store.nearest query small content = .ok few →
    store.nearest query large content = .ok many → few <+: many

end ChunkStore

theorem VectorTable.length_nearest_le (table : VectorTable) (query : Vector) (count : Nat) :
    (table.nearest query count).length ≤ count := by
  rw [nearest, List.length_map, List.length_mergeSort, candidates]
  -- After every block no more than `count` candidates are in hand.
  induction table.blocks using List.reverseRecOn with
  | nil => exact Nat.zero_le _
  | append_singleton blocks block =>
    rw [List.foldl_append, List.foldl_cons, List.foldl_nil]
    exact List.length_take_le _ _

/-- An open table gives no more records than it is asked for. -/
theorem Handle.isLimited_store (handle : Handle) (query : Vector) (database : Database) :
    handle.store.IsLimited query database := by
  intro limit found hfound
  change handle.nearest query limit database = .ok found at hfound
  rcases handle.nearest_cases query limit database with
    ⟨hlimit, hnearest⟩ | ⟨-, -, hnearest⟩ | ⟨-, -, -, fault, hnearest⟩ | ⟨hlimit, hlength, hcan, -⟩
  · rw [hnearest] at hfound
    cases hfound
    exact Nat.zero_le limit
  · rw [hnearest] at hfound
    cases hfound
  · rw [hnearest] at hfound
    cases hfound
  · obtain ⟨vectors, hvectors, -⟩ := hcan.table.table
    rw [Handle.nearest_eq_ok hcan hlength hlimit rfl hvectors] at hfound
    cases hfound
    calc _ = ((vectors.nearest query (min limit Handle.maxNearest)).filterMap
          (handle.chunkTable database).row?).length := List.length_map _
      _ ≤ (vectors.nearest query (min limit Handle.maxNearest)).length :=
        List.length_filterMap_le _ _
      _ ≤ min limit Handle.maxNearest := vectors.length_nearest_le query _
      _ ≤ limit := Nat.min_le_left _ _

/-- An open table gives the same records first, whatever it is asked for, if every record has a
distance from the query. -/
theorem Session.Keeps.isCumulative_store {name : String} {dimensions : Nat} {session : Session}
    {ledger : Ledger} {handle : Handle} {query : Vector}
    (h : Keeps name dimensions session ledger)
    (hname : Database.fold handle.tableName = Database.fold name)
    (hmeasured : ∀ record ∈ ledger.records, (record.distance query).isNaN = false) :
    handle.store.IsCumulative query session.database := by
  intro small large hle few many hfew hmany
  change handle.nearest query small session.database = .ok few at hfew
  change handle.nearest query large session.database = .ok many at hmany
  by_cases hsmall : small = 0
  · rw [hsmall, Handle.nearest_zero] at hfew
    cases hfew
    exact List.nil_prefix
  · rcases handle.nearest_cases query small session.database with
      ⟨hlimit, -⟩ | ⟨-, -, hnearest⟩ | ⟨-, -, -, fault, hnearest⟩ | ⟨-, hlength, hcan, -⟩
    · exact absurd hlimit hsmall
    · rw [hnearest] at hfew
      cases hfew
    · rw [hnearest] at hfew
      cases hfew
    · obtain ⟨ranked, -, hnearest⟩ := h.nearest_eq hname hcan hlength hmeasured
      rw [hnearest] at hfew hmany
      cases hfew
      cases hmany
      exact List.take_prefix_take_left (by omega)

/-! ## Searches -/

/-- The hits among the first candidates are hits among all of them, in the same order. -/
theorem hits_sublist {query : Vector} {few many : List Record} (h : few <+: many)
    (threshold : Single) : (hits query threshold few).Sublist (hits query threshold many) :=
  Sorting.mergeSort_sublist Hit.isOrder_before ((h.map _).filter _)

/-- There are no more hits than candidates. -/
theorem length_hits_le (query : Vector) (threshold : Single) (candidates : List Record) :
    (hits query threshold candidates).length ≤ candidates.length := by
  rw [(hits_perm query threshold candidates).length_eq]
  exact (List.length_filter_le _ _).trans (List.length_map _).le

/-- With a larger limit a search of a cumulative store loses no hit and swaps no two of them. The
hits are the candidates that reach the threshold. So there are no more hits than candidates, and, if
the store keeps to the limit, no more than the limit says. -/
theorem search_sublist {ε σ τ : Type} (store : ChunkStore ε σ) (provider : Provider τ)
    (query : String) (threshold : Single) (content : σ) (state : τ)
    (hcumulative : store.IsCumulative (provider.embedOrZero query state).1 content) :
    let vector := (provider.embedOrZero query state).1
    let outcome := fun limit => (search store provider query limit threshold content state).1
    ∀ small large, small ≤ large → ∀ few many, store.nearest vector small content = .ok few →
      store.nearest vector large content = .ok many →
      ∃ found all, outcome small = .ok found ∧ outcome large = .ok all ∧ found.Sublist all ∧
        found.Perm ((few.map (Hit.of vector)).filter (Hit.reaches threshold)) ∧
        found.length ≤ few.length ∧ (store.IsLimited vector content → found.length ≤ small) := by
  intro vector outcome small large hle few many hfew hmany
  have hlength := length_hits_le vector threshold few
  refine ⟨hits vector threshold few, hits vector threshold many, search_eq_ok hfew threshold,
    search_eq_ok hmany threshold, ?_, hits_perm vector threshold few, hlength, ?_⟩
  · exact hits_sublist (hcumulative small large hle few many hfew hmany) threshold
  · exact fun hlimited => Nat.le_trans hlength (hlimited small few hfew)

/-- The record that is nearest to the query is the one that is least similar to it. With a larger
limit two others come in, and both come before it. -/
theorem search_sublist_of_three :
    let options : StoreOptions := { dimensions := 2 }
    let handle := options.handle .append
    let one : Single := ⟨0x3F800000⟩
    let first : Record := { (default : Record) with id := "a", embedding := [one, one] }
    let second : Record := { first with id := "b", embedding := [⟨0x40400000⟩, Single.zero] }
    let third : Record := { first with id := "c", embedding := [⟨0x40000000⟩, one] }
    let session := Session.performAll
      { database := (Handle.openTable options {}).1, handles := [handle] }
      [.storing 0 first, .storing 0 second, .storing 0 third]
    let provider : Provider Unit := Provider.ofFunction 2 fun _ => .ok [one, Single.zero]
    let outcome := fun limit =>
      (search handle.store provider "q" limit Single.zero session.database ()).1
    ∃ found all, outcome 1 = .ok found ∧ outcome 3 = .ok all ∧ found.Sublist all ∧
      found.length ≤ 1 ∧ found.map (fun hit => hit.record) = [first] ∧
      all.map (fun hit => hit.record) = [second, third, first] := by
  intro options handle one first second third session provider outcome
  have hopen : Handle.openTable options {} = ((Handle.openTable options {}).1, .ok handle) :=
    Prod.ext rfl (by decide +kernel)
  obtain ⟨dimensions, hopened, hsupported⟩ := Session.Keeps.of_openTable (by decide) (by decide)
    hopen [.storing 0 first, .storing 0 second, .storing 0 third]
  obtain rfl := hsupported (by decide)
  -- From here on only the records of the table count, and not how they came in.
  obtain ⟨ledger, hkeeps, hrecords⟩ : ∃ ledger,
      Session.Keeps options.tableName options.dimensions session ledger ∧
        ledger.records = [first, second, third] :=
    ⟨_, hopened, by decide +kernel⟩
  clear_value session
  have hmeasured : ∀ record ∈ [first, second, third],
      (record.distance [one, Single.zero]).isNaN = false := by decide +kernel
  rw [← hrecords] at hmeasured
  have hname : Database.fold handle.tableName = Database.fold options.tableName := rfl
  have hvisible : Database.fold options.tableName ≠ Handle.candidatesName := by decide +kernel
  have hcan := (hkeeps.canSearch_iff hname).mpr ⟨hvisible, rfl⟩
  -- No two records are equally near, so there is one ranking only.
  obtain ⟨ranked, hranked, hnearest⟩ := hkeeps.nearest_eq hname hcan rfl hmeasured
  rw [hrecords] at hranked
  have hapart : ∀ a ∈ [first, second, third], ∀ b ∈ [first, third, second],
      (a.distance [one, Single.zero]).le (b.distance [one, Single.zero]) = true →
      (b.distance [one, Single.zero]).le (a.distance [one, Single.zero]) = true → a = b := by
    decide +kernel
  have horder : ranked = [first, third, second] := by
    refine List.Perm.eq_of_pairwise ?_ hranked.ordered (by decide +kernel)
      (hranked.perm.trans (by decide +kernel))
    exact fun a b ha hb => hapart a (hranked.perm.mem_iff.mp ha) b hb
  subst horder
  have hone : handle.store.nearest (provider.embedOrZero "q" ()).1 1 session.database =
      .ok [first] := hnearest 1
  have hthree : handle.store.nearest (provider.embedOrZero "q" ()).1 3 session.database =
      .ok [first, third, second] := hnearest 3
  obtain ⟨found, all, hfound, hall, hsublist, -, -, hlimited⟩ :=
    search_sublist handle.store provider "q" Single.zero session.database ()
      (hkeeps.isCumulative_store hname hmeasured) 1 3 (by decide) [first] [first, third, second]
      hone hthree
  refine ⟨found, all, hfound, hall, hsublist, hlimited (handle.isLimited_store _ _), ?_, ?_⟩
  · have hhits := (search_eq_ok hone Single.zero).symm.trans hfound
    rw [← Except.ok.inj hhits, hits]
    decide +kernel
  · have hhits : Except.ok (hits [one, Single.zero] Single.zero [first, third, second]) = .ok all :=
      (search_eq_ok hthree Single.zero).symm.trans hall
    have hoffered : (([first, third, second].map (Hit.of [one, Single.zero])).filter
        (Hit.reaches Single.zero)) =
        [⟨first, ⟨0x3F3504F3⟩⟩, ⟨third, ⟨0x3F64F92E⟩⟩] ++ ⟨second, one⟩ :: [] := by
      decide +kernel
    -- Each hit is more similar than those before it.
    have hnext : [(⟨first, ⟨0x3F3504F3⟩⟩ : Hit), ⟨third, ⟨0x3F64F92E⟩⟩] ++ [] =
        [⟨first, ⟨0x3F3504F3⟩⟩] ++ ⟨third, ⟨0x3F64F92E⟩⟩ :: [] := rfl
    rw [← Except.ok.inj hhits, hits, hoffered,
      Sorting.mergeSort_of_first Hit.isOrder_before (by decide +kernel) (by decide +kernel), hnext,
      Sorting.mergeSort_of_first Hit.isOrder_before (by decide +kernel) (by decide +kernel),
      List.append_nil, List.mergeSort_singleton]
    rfl

/-- What is asked of the store is needed. A store that always gives the same record gives a hit
where nothing is asked for. And an empty table with vectors of four numbers has no answer to a query
of three, unless nothing is asked for. -/
theorem search_of_unlimited :
    let one : Single := ⟨0x3F800000⟩
    let record : Record := { (default : Record) with embedding := [one, one, one] }
    let constant : ChunkStore StoreError Database :=
      { append := fun _ database => (.ok (), database)
        nearest := fun _ _ _ => .ok [record]
        keyword := fun _ _ _ => .ok [record]
        statistics := fun _ => .ok {} }
    let options : StoreOptions := { dimensions := 4 }
    let handle := options.handle .append
    let database := (Handle.openTable options {}).1
    let provider : Provider Unit := Provider.ofFunction 3 fun _ => .ok [one, one, one]
    let outcome := fun (store : ChunkStore StoreError Database) limit =>
      (search store provider "q" limit Single.zero database ()).1
    ((∀ query, constant.IsCumulative query database) ∧
      ∃ hit, outcome constant 0 = .ok [hit]) ∧
    (∀ query, handle.store.IsCumulative query database) ∧
      outcome handle.store 0 = .ok [] ∧
      outcome handle.store 10 = .error (.dimensionMismatch 4 3) := by
  intro one record constant options handle database provider outcome
  refine ⟨⟨?_, Hit.of [one, one, one] record, ?_⟩, ?_, ?_, ?_⟩
  · intro query small large hle few many hfew hmany
    cases hfew
    cases hmany
    exact List.prefix_rfl
  · have hreached : ([record].map (Hit.of [one, one, one])).filter (Hit.reaches Single.zero) =
        [Hit.of [one, one, one] record] := by
      decide +kernel
    refine (search_eq_ok rfl Single.zero).trans ?_
    show Except.ok (hits [one, one, one] Single.zero [record]) = _
    rw [hits, hreached, List.mergeSort_singleton]
  · intro query
    have hopen : Handle.openTable options {} = (database, .ok handle) :=
      Prod.ext rfl (by decide +kernel)
    obtain ⟨dimensions, hkeeps, -⟩ :=
      Session.Keeps.of_openTable (by decide) (by decide) hopen []
    refine hkeeps.isCumulative_store rfl ?_
    -- The table is empty.
    exact List.forall_mem_nil _
  · have hnearest : handle.store.nearest [one, one, one] 0 database = .ok [] :=
      handle.nearest_zero [one, one, one] database
    refine (search_eq_ok hnearest Single.zero).trans ?_
    rw [hits, List.map_nil, List.filter_nil, List.mergeSort_nil]
  · have hnearest : handle.store.nearest [one, one, one] 10 database =
        .error (.dimensionMismatch 4 3) := by
      have hlength : [one, one, one].length ≠ handle.dimensions := by decide
      have hlimit : 10 ≠ 0 := by decide
      exact Handle.nearest_of_length_ne hlength hlimit database
    exact search_eq_error hnearest Single.zero

end CodeSearch
