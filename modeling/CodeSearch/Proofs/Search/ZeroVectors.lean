import CodeSearch.Proofs.Store.Nearest
import CodeSearch.Proofs.Vector.Angle
import CodeSearch.Search

/-!
# Searches without a vector

When a provider fails, the zero vector stands in for what it should have given, in a record as in a
query. Nothing is similar to the zero vector, so a search with a threshold above zero finds nothing
where one of the two vectors is zero.

- `Handle.FindsNothing`: how a search ends that can find nothing. It answers with no hits, unless
  the query has a vector of another length or the tables cannot be searched at all.
- `Handle.findsNothing_search`: such is a search whose candidates are not similar to the query.
- `Session.Keeps.foldl_zero`: what a provider that always fails leaves in an empty table.
- `Session.findsNothing_performAll`: both kinds of searches, after all events.
- `Session.search_of_hidden`: a table that can be opened and filled, and cannot be searched.
-/

namespace CodeSearch

/-! ## Providers that fail -/

/-- The provider has no vector for the text. -/
def Provider.Fails {τ : Type} (provider : Provider τ) (text : String) (state : τ) : Prop :=
  ∃ error, (provider.embed text state).1 = .error error

theorem Provider.embedOrZero_of_fails {τ : Type} {provider : Provider τ} {text : String}
    {state : τ} (h : provider.Fails text state) :
    (provider.embedOrZero text state).1 = Vector.zero provider.dimensions := by
  obtain ⟨error, herror⟩ := h
  rw [provider.embedOrZero_eq, herror]
  rfl

/-! ## Nothing to find -/

/-- Candidates that are not similar to the query do not reach a threshold above zero. -/
theorem hits_eq_nil {query : Vector} {threshold : Single} {candidates : List Record}
    (hthreshold : threshold.le Single.zero = false)
    (h : ∀ record ∈ candidates, Vector.cosine query record.embedding = Single.zero) :
    hits query threshold candidates = [] := by
  have hnone : (candidates.map (Hit.of query)).filter (Hit.reaches threshold) = [] := by
    rw [List.filter_eq_nil_iff]
    intro hit hhit hreaches
    obtain ⟨record, hrecord, rfl⟩ := List.mem_map.mp hhit
    rw [Hit.reaches, Hit.of, h record hrecord, hthreshold] at hreaches
    cases hreaches
  rw [hits, hnone, List.mergeSort_nil]

namespace Handle

/-- How a search ends that can find nothing. -/
structure FindsNothing (handle : Handle) (database : Database) (query : Vector) (limit : Nat)
    (outcome : Except StoreError (List Hit)) : Prop where
  /-- Nothing is asked for. -/
  unasked : limit = 0 → outcome = .ok []
  empty : query.length = handle.dimensions → handle.CanSearch database → outcome = .ok []
  mismatch : limit ≠ 0 → query.length ≠ handle.dimensions →
    outcome = .error (.dimensionMismatch handle.dimensions query.length)
  fault : limit ≠ 0 → query.length = handle.dimensions → ¬ handle.CanSearch database →
    ∃ fault, outcome = .error (.database fault)

variable {handle : Handle} {database : Database} {τ : Type} {provider : Provider τ}
  {query : String} {limit : Nat} {threshold : Single} {state : τ}

/-- A search whose candidates are not similar to the query finds nothing. -/
theorem findsNothing_search (hthreshold : threshold.le Single.zero = false)
    (h : ∀ found,
      handle.nearest (provider.embedOrZero query state).1 limit database = .ok found →
      ∀ record ∈ found,
        Vector.cosine (provider.embedOrZero query state).1 record.embedding = Single.zero) :
    handle.FindsNothing database (provider.embedOrZero query state).1 limit
      (search handle.store provider query limit threshold database state).1 := by
  have hempty : ∀ found,
      handle.nearest (provider.embedOrZero query state).1 limit database = .ok found →
      (search handle.store provider query limit threshold database state).1 = .ok [] := by
    intro found hnearest
    refine (search_eq_ok hnearest threshold).trans ?_
    rw [hits_eq_nil hthreshold (h found hnearest)]
  have hfailed : ∀ error,
      handle.nearest (provider.embedOrZero query state).1 limit database = .error error →
      (search handle.store provider query limit threshold database state).1 = .error error :=
    fun _ hnearest => search_eq_error hnearest threshold
  rcases handle.nearest_cases (provider.embedOrZero query state).1 limit database with
    ⟨hlimit, hnearest⟩ | ⟨hlimit, hlength, hnearest⟩ | ⟨hlimit, hlength, hcan, fault, hnearest⟩ |
    ⟨hlimit, hlength, hcan, found, hnearest⟩
  · -- Nothing was asked for.
    have houtcome := hempty [] hnearest
    exact ⟨fun _ => houtcome, fun _ _ => houtcome, fun h => absurd hlimit h,
      fun h => absurd hlimit h⟩
  · have houtcome := hfailed _ hnearest
    exact ⟨fun h => absurd h hlimit, fun h => absurd h hlength, fun _ _ => houtcome,
      fun _ h => absurd h hlength⟩
  · have houtcome := hfailed _ hnearest
    exact ⟨fun h => absurd h hlimit, fun _ h => absurd h hcan, fun _ h => absurd hlength h,
      fun _ _ _ => ⟨fault, houtcome⟩⟩
  · have houtcome := hempty found hnearest
    exact ⟨fun _ => houtcome, fun _ _ => houtcome, fun _ h => absurd hlength h,
      fun _ _ h => absurd hcan h⟩

/-- A query without a vector finds nothing, whatever is stored. -/
theorem findsNothing_of_fails (hthreshold : threshold.le Single.zero = false)
    (hfails : provider.Fails query state) :
    handle.FindsNothing database (Vector.zero provider.dimensions) limit
      (search handle.store provider query limit threshold database state).1 := by
  rw [← provider.embedOrZero_of_fails hfails]
  refine findsNothing_search hthreshold fun found _ record _ => ?_
  rw [provider.embedOrZero_of_fails hfails]
  exact Vector.cosine_of_isZero (Or.inl (Vector.all_isZero_zero _))

/-- Records without vectors are not found, whatever is asked for. -/
theorem findsNothing_of_records {records : List Record}
    (hrecords : handle.records database = .ok records)
    (hzero : ∀ record ∈ records, record.embedding.all Single.isZero = true)
    (hthreshold : threshold.le Single.zero = false) :
    handle.FindsNothing database (provider.embedOrZero query state).1 limit
      (search handle.store provider query limit threshold database state).1 := by
  refine findsNothing_search hthreshold fun found hfound record hrecord => ?_
  exact Vector.cosine_of_isZero
    (Or.inr (hzero record (mem_records_of_nearest hrecords hfound hrecord)))

end Handle

/-! ## Tables that are filled without vectors -/

/-- What a list holds after records were stored was stored, or was there before. -/
theorem WritePolicy.mem_putAll {policy : WritePolicy} {stored records : List Record}
    {record : Record} (h : record ∈ policy.putAll stored records) :
    record ∈ stored ∨ record ∈ records := by
  induction stored using List.reverseRecOn with
  | nil => exact Or.inr h
  | append_singleton stored last ih =>
    rw [putAll_append] at h
    have hmem : record ∈ policy.putAll stored records ∨ record = last := by
      cases policy with
      | append => simpa [put] using h
      | upsert =>
        rw [put, List.mem_append, List.mem_filter, List.mem_singleton] at h
        exact h.imp And.left id
    rw [List.mem_append, List.mem_singleton]
    rcases hmem with hmem | rfl
    · exact (ih hmem).imp Or.inl id
    · exact Or.inl (Or.inr rfl)

namespace Session

variable {τ ρ : Type}

namespace Keeps

variable {name : String} {dimensions : Nat} {session : Session} {ledger : Ledger} {handle : Handle}

/-- A provider that always fails leaves zero vectors in an empty table. -/
theorem foldl_zero {indexer : Indexer StoreError Database τ}
    (h : Keeps name dimensions session ledger) (hhandle : handle ∈ session.handles)
    (hname : Database.fold handle.tableName = Database.fold name) (hempty : ledger.records = [])
    (hstore : indexer.store = handle.store)
    (hfails : ∀ text state, indexer.provider.Fails text state) (parts : List Part) (state : τ) :
    ∃ filled : Ledger,
      Keeps name dimensions
        { session with
          database :=
            (parts.foldl indexer.indexPart { content := session.database, state }).content }
        filled ∧
      ∀ record ∈ filled.records, record.embedding = Vector.zero indexer.provider.dimensions := by
  obtain ⟨stored, hkeeps, -, -, -, hanswered⟩ := foldl_indexPart hhandle hname hstore parts
    { content := session.database, state } h
  refine ⟨_, hkeeps, ?_⟩
  intro record hrecord
  rw [Ledger.records_putAll, hempty] at hrecord
  have hstored := (WritePolicy.mem_putAll hrecord).resolve_right List.not_mem_nil
  obtain ⟨part, state, rfl⟩ := hanswered record hstored
  obtain ⟨error, herror⟩ := hfails (part.text indexer.embedText) state
  show vectorOr _ (indexer.provider.embed (part.text indexer.embedText) state).1 = _
  rw [herror]
  rfl

end Keeps

/-- Whatever is opened and stored in the database of a new table, a query without a vector finds
nothing, through any handle of the table and for any threshold above zero. If the table is empty and
is filled with a provider that always fails, all its records have the zero vector of the handle that
stored them, and then no query finds anything, whatever its vector holds. A table can be searched
if it does not have the one name that the search gives to its candidates, and if the handle asks
for vectors of the length that the table takes: the length with which the table was made, unless
that is too large for a table. -/
theorem findsNothing_performAll {options : StoreOptions} {start after : Database} {first : Handle}
    (hchunks : start.table? options.tableName = none)
    (hvectors : start.table? (Database.vectorName options.tableName) = none)
    (hopen : Handle.openTable options start = (after, .ok first)) (events : List Event) :
    let session := performAll { database := after, handles := [first] } events
    ∃ dimensions,
      (options.dimensions ≤ VectorTable.maxDimensions → dimensions = options.dimensions) ∧
      ∀ handle ∈ session.handles,
        Database.fold handle.tableName = Database.fold options.tableName →
        (handle.CanSearch session.database ↔
          Database.fold options.tableName ≠ Handle.candidatesName ∧
            handle.dimensions = dimensions) ∧
        (∀ (provider : Provider τ) query limit threshold state,
          provider.dimensions = handle.dimensions → provider.Fails query state →
          threshold.le Single.zero = false →
          handle.FindsNothing session.database (Vector.zero handle.dimensions) limit
            (search handle.store provider query limit threshold session.database state).1) ∧
        ((handle.statistics session.database).totalChunks = 0 →
          ∀ (provider : Provider τ) splitter embedText chunks state,
          provider.dimensions = handle.dimensions →
          (∀ text state, provider.Fails text state) →
          let indexer : Indexer StoreError Database τ :=
            { store := handle.store, provider, splitter, embedText }
          let filled := (indexer.indexChunks chunks session.database state).content
          (∃ records, handle.records filled = .ok records ∧
            ∀ record ∈ records, record.embedding = Vector.zero handle.dimensions) ∧
          ∀ other ∈ session.handles,
            Database.fold other.tableName = Database.fold options.tableName →
            (other.CanSearch filled ↔ other.CanSearch session.database) ∧
            ∀ (asked : Provider ρ) query limit threshold state,
              threshold.le Single.zero = false →
              other.FindsNothing filled (asked.embedOrZero query state).1 limit
                (search other.store asked query limit threshold filled state).1) := by
  intro session
  obtain ⟨dimensions, hkeeps, hsupported⟩ := Keeps.of_openTable hchunks hvectors hopen events
  refine ⟨dimensions, hsupported, ?_⟩
  intro handle hhandle hname
  refine ⟨hkeeps.canSearch_iff hname, ?_, ?_⟩
  · intro provider query limit threshold state hdimensions hfails hthreshold
    rw [← hdimensions]
    exact Handle.findsNothing_of_fails hthreshold hfails
  · intro hempty provider splitter embedText chunks state hdimensions hfails indexer filled
    have hnone : (ledgerAfter options.tableName { database := after, handles := [first] } {}
        events).records = [] := by
      rw [hkeeps.statistics_eq hname] at hempty
      exact List.eq_nil_of_length_eq_zero hempty
    obtain ⟨ledger, hfilled, hzero⟩ := hkeeps.foldl_zero hhandle hname hnone
      (rfl : indexer.store = handle.store) hfails (indexer.parts chunks) state
    refine ⟨⟨ledger.records, hfilled.records_eq hname, ?_⟩, ?_⟩
    · intro record hrecord
      rw [hzero record hrecord]
      exact congrArg Vector.zero hdimensions
    · intro other hother hother'
      constructor
      · exact (hfilled.canSearch_iff hother').trans (hkeeps.canSearch_iff hother').symm
      · intro asked query limit threshold state hthreshold
        refine Handle.findsNothing_of_records (hfilled.records_eq hother') ?_ hthreshold
        intro record hrecord
        rw [hzero record hrecord]
        exact Vector.all_isZero_zero _

/-- A provider that always fails fills a table, and then a provider that answers with something that
is not a number finds nothing in it. In the empty table the first provider finds nothing either. -/
theorem findsNothing_of_nan :
    let options : StoreOptions := { dimensions := 1 }
    let handle := options.handle .append
    let database := (Handle.openTable options {}).1
    let failing : Provider Unit := Provider.ofFunction 1 fun _ => .error .missingApiKey
    let asked : Provider Unit := Provider.ofFunction 1 fun _ => .ok [⟨0x7FC00000⟩]
    let indexer : Indexer StoreError Database Unit :=
      { store := handle.store, provider := failing, splitter := Splitter.ofBounds 15 0
        embedText := .rawCode }
    let chunks := Extract.lineChunksOfFiles [("a.ts", "function f() \x7b\x7d")]
    let filled := (indexer.indexChunks chunks database ()).content
    let half : Single := ⟨0x3F000000⟩
    (search handle.store failing "f" 10 half database ()).1 = .ok [] ∧
      (search handle.store asked "f" 10 half filled ()).1 = .ok [] := by
  intro options handle database failing asked indexer chunks filled half
  have hhandle : handle ∈ (performAll { database, handles := [handle] } []).handles :=
    List.mem_singleton.mpr rfl
  have hfails : ∀ text state, failing.Fails text state := fun _ _ => ⟨_, rfl⟩
  have hhalf : half.le Single.zero = false := by decide
  obtain ⟨dimensions, hsupported, hall⟩ :=
    findsNothing_performAll (by decide) (by decide) openTable_one []
  obtain rfl := hsupported (by decide)
  obtain ⟨hcan, hquery, hrecords⟩ := hall handle hhandle rfl
  have hvisible : handle.CanSearch database := hcan.mpr ⟨by decide +kernel, rfl⟩
  constructor
  · have hfound := hquery failing "f" 10 half () rfl (hfails _ _) hhalf
    exact hfound.empty rfl hvisible
  · obtain ⟨-, hother⟩ := hrecords (by decide +kernel) failing (Splitter.ofBounds 15 0) .rawCode
      chunks () rfl hfails
    obtain ⟨hsame, hfound⟩ := hother handle hhandle rfl
    exact (hfound asked "f" 10 half () hhalf).empty rfl (hsame.mpr hvisible)

/-- A table can have the name that the search gives to its candidates. Then every search in it is an
error, where a query without a vector should find nothing. -/
theorem search_of_hidden :
    let options : StoreOptions := { tableName := "knn", dimensions := 4 }
    let handle := options.handle .append
    let provider : Provider Unit := Provider.ofFunction 4 fun _ => .error .missingApiKey
    ∃ database, Handle.openTable options {} = (database, .ok handle) ∧
      (search handle.store provider "q" 10 ⟨0x3F000000⟩ database ()).1 =
        .error (.database (.hiddenTable "knn")) := by
  intro options handle provider
  refine ⟨(Handle.openTable options {}).1, Prod.ext rfl ?_, ?_⟩
  all_goals decide +kernel

end Session

end CodeSearch
