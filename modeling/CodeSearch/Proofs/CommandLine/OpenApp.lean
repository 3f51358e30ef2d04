import CodeSearch.Proofs.Embedding.Dimensions
import CodeSearch.Proofs.Indexing.Outcomes
import CodeSearch.Proofs.Splitting.Windows
import CodeSearch.Proofs.Store.OpenIndex
import CodeSearch.Proofs.Store.Session

/-!
# What commands work with

The number of dimensions is configured once. The store and the provider take it from there, and so
vectors of another length never come to the store: a provider that answers with one has failed.

- `App.IsFor`: what a command works with is what is configured; `App.isFor_of_open?`.
- `Part.length_code_le`: no part is longer than a chunk may be.
- `App.dimensions_of_open`: all of it, for whatever can be opened.
-/

namespace CodeSearch

/-! ## Lengths of parts -/

/-- No part is longer than the splitter allows. -/
theorem Part.length_code_le {splitter : Splitter} {chunk : Chunk} {part : Part}
    (h : part ∈ Part.ofChunk splitter chunk) : part.code.length ≤ splitter.size := by
  unfold ofChunk at h
  obtain ⟨window, hwindow, rfl⟩ := List.mem_map.mp h
  have hmem : window.1 ∈ splitter.split chunk.code := List.fst_mem_of_mem_zipIdx hwindow
  exact (Splitter.tiling splitter chunk.code).bounded _ hmem

namespace CommandLine

variable {τ : Type} {config : Config} {around : Surroundings τ} {key : Option String}
  {files after : FileSystem} {app : App τ} {index : OpenIndex}

/-! ## What is opened -/

theorem openStore_eq_ok (h : openStore config files = (after, .ok index)) :
    config.problem? = none ∧ index.handle.IsFor config.storeOptions := by
  unfold openStore at h
  cases hproblem : config.problem? with
  | some problem =>
    rw [hproblem] at h
    cases h
  | none =>
    rw [hproblem] at h
    refine ⟨rfl, ?_⟩
    cases hopen : (files.openIndex config.databasePath config.storeOptions).2 with
    | error error =>
      have houtcome := congrArg Prod.snd h
      dsimp only at houtcome
      rw [hopen] at houtcome
      cases houtcome
    | ok opened =>
      have houtcome := congrArg Prod.snd h
      dsimp only at houtcome
      rw [hopen] at houtcome
      cases houtcome
      exact FileSystem.isFor_of_openIndex hopen

namespace App

/-- What a command works with is what is configured, and nothing is wrong with that. -/
structure IsFor (app : App τ) (config : Config) : Prop where
  config_eq : app.config = config
  accepted : config.problem? = none
  handle : app.index.handle.IsFor config.storeOptions
  provider : app.provider.HasDimensions config.embedding.dimensions.toNat

theorem isFor_of_open? (h : App.open? config around key files = (after, .ok app)) :
    app.IsFor config := by
  unfold App.open? at h
  split at h
  · cases h
  · next opened index hopen =>
    obtain ⟨haccepted, hhandle⟩ := openStore_eq_ok hopen
    split at h
    · next provider hprovider =>
      cases h
      exact ⟨rfl, haccepted, hhandle, Config.hasDimensions_of_provider? hprovider⟩
    · cases h

namespace IsFor

theorem handle_dimensions (h : app.IsFor config) :
    app.index.handle.dimensions = config.embedding.dimensions.toNat := h.handle.dimensions

theorem length_vector (h : app.IsFor config) (text : String) (state : τ) :
    (app.provider.embedOrZero text state).1.length = app.index.handle.dimensions := by
  rw [h.handle_dimensions]
  exact h.provider.length_embedOrZero text state

/-- No part is longer than is configured. -/
theorem length_code_le (h : app.IsFor config) {chunks : List Chunk} {part : Part}
    (hpart : part ∈ app.indexer.parts chunks) : part.code.length ≤ config.chunkSize.toNat := by
  obtain ⟨chunk, -, hpart⟩ := List.mem_flatMap.mp hpart
  have hlength := Part.length_code_le hpart
  obtain ⟨hsize, -⟩ := config.splitter_bounds h.accepted
  rw [← hsize, ← h.config_eq]
  exact hlength

end IsFor

/-- A configuration says once how long vectors are. If it is accepted and its store and its provider
can be opened, every text has a vector of this length, whatever the provider answers, and so neither
a record nor a query is refused because of its vector. Indexing stores all parts of all chunks,
unless the database refuses one, and no part is longer than is configured. -/
theorem dimensions_of_open (h : App.open? config around key files = (after, .ok app)) :
    let handle := app.index.handle
    let vector text state := (app.provider.embedOrZero text state).1
    config.problem? = none ∧
    (∀ text state, (vector text state).length = config.embedding.dimensions.toNat) ∧
    (∀ text state record database expected actual, record.embedding = vector text state →
      (handle.append record database).1 ≠ .error (.dimensionMismatch expected actual)) ∧
    (∀ text state limit database expected actual,
      handle.nearest (vector text state) limit database ≠
        .error (.dimensionMismatch expected actual)) ∧
    ∀ chunks database state,
      let run := app.indexer.indexChunks chunks database state
      let outcomes :=
        app.indexer.outcomes { content := database, state } (app.indexer.parts chunks)
      let total := windowCount config.splitter chunks
      outcomes.length = total ∧
      (∀ error, .error error ∈ outcomes → ∃ fault, error = .database fault) ∧
      (run.stored = total ↔ ∀ fault, .error (.database fault) ∉ outcomes) ∧
      (handle.CanStore database → run.stored = total) ∧
      ∀ row ∈ (handle.chunkTable run.content).rows,
        row ∈ (handle.chunkTable database).rows ∨
          row.entry.code.length ≤ config.chunkSize.toNat := by
  intro handle vector
  have hfor := isFor_of_open? h
  have hprovider : app.indexer.provider.HasDimensions handle.dimensions := by
    rw [show handle.dimensions = _ from hfor.handle_dimensions]
    exact hfor.provider
  refine ⟨hfor.accepted, hfor.provider.length_embedOrZero, ?_, ?_, ?_⟩
  · intro text state record database expected actual hvector hrefused
    have hlength : record.embedding.length = handle.dimensions := by
      rw [hvector]
      exact hfor.length_vector text state
    rcases Handle.append_cases_of_length database hlength with hok | ⟨fault, hfault⟩
    · rw [hok] at hrefused
      cases hrefused
    · rw [hfault] at hrefused
      cases hrefused
  · intro text state limit database
    exact Handle.nearest_ne_mismatch (hfor.length_vector text state) limit database
  · intro chunks database state run outcomes total
    have htotal : (app.indexer.parts chunks).length = total := by
      rw [Indexer.length_parts]
      show windowCount app.config.splitter chunks = windowCount config.splitter chunks
      rw [hfor.config_eq]
    have hstored : run.stored = total ↔ ∀ fault, .error (.database fault) ∉ outcomes := by
      rw [← htotal, Indexer.length_parts]
      exact Indexer.stored_indexChunks_iff (rfl : app.indexer.store = handle.store) hprovider chunks
        database state
    refine ⟨?_, ?_, hstored, ?_, ?_⟩
    · rw [← htotal]
      exact Indexer.length_outcomes _ _ _
    · intro error
      exact Indexer.fault_of_mem_outcomes (rfl : app.indexer.store = handle.store) hprovider
    · intro hcan
      rw [hstored]
      intro fault hfault
      rw [show outcomes = _ from Indexer.outcomes_of_canStore
        (rfl : app.indexer.store = handle.store) hprovider hcan _] at hfault
      cases List.eq_of_mem_replicate hfault
    · intro row hrow
      refine (Indexer.mem_rows_foldl (rfl : app.indexer.store = handle.store) hrow).imp id ?_
      rintro ⟨part, hpart, hcode⟩
      rw [hcode]
      exact hfor.length_code_le hpart

/-- A service is asked whose replies are empty, and a chunk of six characters is stored in two
parts. -/
theorem dimensions_of_open_service :
    let config : Config :=
      { databasePath := ":memory:", chunkSize := 4, chunkOverlap := 0
        embedding := { dimensions := 1, apiKey := some "key" } }
    let around : Surroundings Unit :=
      { files := default, input := [], grammar := fun _ _ => none
        transport := fun _ state => (some { status := 200, body := [] }, state), state := () }
    ∃ app, App.open? config around none default = (default, .ok app) ∧
      let run := app.indexer.indexChunks [{ (default : Chunk) with code := "abcdef" }]
        app.index.database ()
      run.stored = 2 ∧
        ∀ row ∈ (app.index.handle.chunkTable run.content).rows, row.entry.code.length ≤ 4 := by
  intro config around
  let index : OpenIndex :=
    { handle := StoreOptions.handle { dimensions := 1 } .append
      database := (Handle.openTable { dimensions := 1 } {}).1
      place := none }
  have hstore : openStore config default = (default, .ok index) := by
    have hproblem : config.problem? = none := by decide +kernel
    unfold openStore
    rw [hproblem]
    have hopen : (default : FileSystem).openIndex config.databasePath config.storeOptions =
        (default, .ok index) := by
      refine (FileSystem.openIndex_memory default config.storeOptions).trans ?_
      rw [FileSystem.openInMemory, show config.storeOptions = { dimensions := 1 } from rfl,
        Session.openTable_one]
      rfl
    dsimp only
    rw [hopen]
    rfl
  have hkey : config.apiKey? none around.apiKey = some "key" := by decide +kernel
  obtain ⟨service, hservice⟩ : ∃ service,
      Service.create "key" Service.defaultBase Service.defaultModel 1 = .ok service := by
    rw [Service.create, if_neg (by decide)]
    exact ⟨_, rfl⟩
  have hprovider : config.provider? around.transport (some "key") =
      .ok (service.provider around.transport) :=
    congrArg (Except.map fun made : Service => made.provider around.transport) hservice
  let app : App Unit := { config, index, provider := service.provider around.transport }
  have hopen : App.open? config around none default = (default, .ok app) := by
    unfold App.open?
    rw [hstore, hkey]
    dsimp only
    rw [hprovider]
  have hcan : index.handle.CanStore index.database := by
    refine ⟨rfl, rfl, { dimensions := 1 }, ?_, rfl⟩
    decide +kernel
  obtain ⟨-, -, -, -, hrun⟩ := dimensions_of_open hopen
  obtain ⟨-, -, -, hstored, hrows⟩ :=
    hrun [{ (default : Chunk) with code := "abcdef" }] index.database ()
  refine ⟨app, hopen, ?_, ?_⟩
  · refine (hstored hcan).trans ?_
    decide +kernel
  · intro row hrow
    refine (hrows row hrow).resolve_left ?_
    have hempty : (index.handle.chunkTable index.database).rows = [] := by decide +kernel
    rw [show app.index.handle.chunkTable index.database = _ from rfl]
    exact hempty ▸ List.not_mem_nil

end App

end CommandLine

end CodeSearch
