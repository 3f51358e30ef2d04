import CodeSearch.Proofs.Store.Nearest

/-!
# How indexing ends

A record whose vector has the length that its handle asks for is only refused by the database, and
whether it is does not depend on the record. So it is with the parts of a run of indexing.

- `Handle.CanStore`: the handle can store records in a database.
- `Indexer.outcomes`: how storing each part of a run ends.
- `Indexer.stored_foldl`: a run counts the parts that were stored.
- `Indexer.fault_of_mem_outcomes`, `Indexer.outcomes_of_canStore`: with a provider whose vectors
  have the right length, only the database refuses parts, and a handle that can store one stores
  all.
- `Indexer.mem_rows_foldl`: the rows that a run leaves.
-/

namespace CodeSearch

/-- A chunk table that is replaced has its new content, unless there is none with the name. -/
theorem Database.chunks?_setTable (database : Database) (name : String) (chunks : ChunkTable) :
    (database.setTable name (.chunks chunks)).chunks? name = some chunks ∨
      (database.setTable name (.chunks chunks)).chunks? name = none := by
  rw [chunks?, table?]
  by_cases hname : fold name = settingsName
  · rw [if_pos hname]
    exact Or.inr rfl
  · rw [if_neg hname, setTable, lookup_map_replace, if_pos rfl]
    cases database.tables.lookup (fold name) with
    | none => exact Or.inr rfl
    | some old => exact Or.inl rfl

/-! ## How storing a record ends -/

namespace Handle

variable {handle : Handle} {database : Database} {record : Record}

/-- The handle may change the database, and its vector table takes vectors of the length that the
handle asks for. -/
structure CanStore (handle : Handle) (database : Database) : Prop where
  writable : handle.isReadOnly = false
  table : handle.HasDimensions database handle.dimensions

/-- The record is stored, and the next one can be stored as well. -/
theorem append_of_canStore (h : handle.CanStore database)
    (hlength : record.embedding.length = handle.dimensions) :
    ∃ after, handle.append record database = (.ok (), after) ∧ handle.CanStore after := by
  obtain ⟨vectors, hvectors, hdimensions⟩ := h.table.table
  have hinsert := handle.insert_eq_ok h.writable hvectors hlength (hlength.trans hdimensions.symm)
  refine ⟨_, append_of_insert_eq_ok hinsert, h.writable, rfl, ?_⟩
  refine ⟨(storeIn handle.writePolicy record (handle.chunkTable database) vectors).2, ?_, ?_⟩
  · exact vectorTable_of_fold rfl
      (Database.table?_setTables_vectors ⟨vectors, vectorTable_ok hvectors⟩ _ _)
  · rw [dimensions_storeIn, hdimensions]

/-- A vector of the right length is not what is wrong with a record that is refused. -/
theorem append_of_not_canStore (h : ¬ handle.CanStore database)
    (hlength : record.embedding.length = handle.dimensions) :
    ∃ fault, handle.append record database = (.error (.database fault), database) := by
  suffices hinsert : ∃ fault, handle.insert record database = .error (.database fault) by
    obtain ⟨fault, hinsert⟩ := hinsert
    exact ⟨fault, append_of_insert_eq_error hinsert⟩
  unfold insert
  rw [if_neg (not_not.mpr hlength)]
  cases hwritable : handle.isReadOnly with
  | true => exact ⟨_, rfl⟩
  | false =>
    rcases vectorTable_cases_of_not fun htable => h ⟨hwritable, htable⟩ with
      hvectors | ⟨vectors, hvectors, hdimensions⟩
    · rw [hvectors]
      exact ⟨_, rfl⟩
    · rw [hvectors]
      show ∃ fault, (if record.embedding.length ≠ vectors.dimensions then _ else _) = _
      rw [if_pos (hlength ▸ hdimensions)]
      exact ⟨_, rfl⟩

/-- A vector of the right length is stored, or the database refuses the record. -/
theorem append_cases_of_length (database : Database)
    (hlength : record.embedding.length = handle.dimensions) :
    (handle.append record database).1 = .ok () ∨
      ∃ fault, (handle.append record database).1 = .error (.database fault) := by
  by_cases hcan : handle.CanStore database
  · obtain ⟨after, happend, -⟩ := append_of_canStore hcan hlength
    rw [happend]
    exact Or.inl rfl
  · obtain ⟨fault, happend⟩ := append_of_not_canStore hcan hlength
    rw [happend]
    exact Or.inr ⟨fault, rfl⟩

theorem mem_rows_storeIn {policy : WritePolicy} {chunks : ChunkTable} {vectors : VectorTable}
    {row : Row} (h : row ∈ (storeIn policy record chunks vectors).1.rows) :
    row ∈ chunks.rows ∨ row.entry = record.toEntry := by
  have hrows : row ∈ chunks.rows ∨ row = ⟨chunks.lastNumber + 1, record.toEntry⟩ := by
    cases policy with
    | append => simpa [storeIn] using h
    | upsert =>
      rw [storeIn, ChunkTable.rows_add, ChunkTable.rows_removeId, List.mem_append,
        List.mem_filter, List.mem_singleton] at h
      exact h.imp And.left id
  exact hrows.imp id fun hrow => by rw [hrow]

/-- Storing a record adds no row but its own. -/
theorem mem_rows_append {row : Row}
    (h : row ∈ (handle.chunkTable (handle.append record database).2).rows) :
    row ∈ (handle.chunkTable database).rows ∨ row.entry = record.toEntry := by
  rcases handle.append_cases record database with ⟨error, happend⟩ | ⟨after, hinsert, happend⟩
  · rw [happend] at h
    exact Or.inl h
  · obtain ⟨vectors, -, -, -, rfl⟩ := insert_ok hinsert
    rw [happend, chunkTable, Database.chunks?, vectorName,
      Database.table?_setTable_of_ne (Database.fold_vectorName_ne _).symm, ← Database.chunks?] at h
    rcases database.chunks?_setTable handle.tableName
      (storeIn handle.writePolicy record (handle.chunkTable database) vectors).1 with hnew | hnone
    · rw [hnew] at h
      exact mem_rows_storeIn h
    · rw [hnone] at h
      exact absurd h List.not_mem_nil

end Handle

/-! ## How a run ends -/

namespace Indexer

variable {ε σ τ : Type}

/-- How storing a part ends. -/
def outcome (indexer : Indexer ε σ τ) (progress : Progress σ τ) (part : Part) : Except ε Unit :=
  (indexer.store.append (indexer.answered part (indexer.question part progress.state))
    progress.content).1

/-- How storing each of the parts ends, one after the other. -/
def outcomes (indexer : Indexer ε σ τ) (progress : Progress σ τ) : List Part → List (Except ε Unit)
  | [] => []
  | part :: parts =>
    indexer.outcome progress part :: indexer.outcomes (indexer.indexPart progress part) parts

theorem length_outcomes (indexer : Indexer ε σ τ) (progress : Progress σ τ) (parts : List Part) :
    (indexer.outcomes progress parts).length = parts.length := by
  induction parts generalizing progress with
  | nil => rfl
  | cons part parts ih => rw [outcomes, List.length_cons, List.length_cons, ih]

/-- A run counts the parts that were stored. -/
theorem stored_foldl (indexer : Indexer ε σ τ) (progress : Progress σ τ) (parts : List Part) :
    (parts.foldl indexer.indexPart progress).stored =
      progress.stored + (indexer.outcomes progress parts).countP Except.toBool := by
  induction parts generalizing progress with
  | nil => rfl
  | cons part parts ih =>
    have hstored : (indexer.indexPart progress part).stored =
        progress.stored + (indexer.outcome progress part).toBool.toNat := by
      rw [indexer.indexPart_eq]
      rfl
    rw [List.foldl_cons, ih, hstored, outcomes, List.countP_cons]
    cases (indexer.outcome progress part).toBool with
    | true => simp only [Bool.toNat_true, if_true]; omega
    | false => simp

/-- All parts are stored if and only if none is refused. -/
theorem stored_eq_length_iff (indexer : Indexer ε σ τ) (content : σ) (state : τ)
    (parts : List Part) :
    (parts.foldl indexer.indexPart { content, state }).stored = parts.length ↔
      ∀ error, .error error ∉ indexer.outcomes { content, state } parts := by
  have hlength := indexer.length_outcomes { content, state } parts
  rw [stored_foldl, Nat.zero_add, ← hlength, List.countP_eq_length]
  constructor
  · intro hall error hrefused
    cases hall _ hrefused
  · intro hnone outcome houtcome
    cases outcome with
    | ok stored => rfl
    | error error => exact absurd houtcome (hnone error)

section Handles

variable {handle : Handle} {indexer : Indexer StoreError Database τ}

/-- The vector of every part has the length that the handle asks for, if it is that of the
provider. -/
theorem length_answered {dimensions : Nat} (hprovider : indexer.provider.HasDimensions dimensions)
    (part : Part) (state : τ) :
    (indexer.answered part (indexer.question part state)).embedding.length = dimensions :=
  hprovider.length_vectorOr _ _

/-- No part is refused because of its vector. -/
theorem fault_of_mem_outcomes (hstore : indexer.store = handle.store)
    (hprovider : indexer.provider.HasDimensions handle.dimensions)
    {progress : Progress Database τ} {parts : List Part} {error : StoreError}
    (h : .error error ∈ indexer.outcomes progress parts) : ∃ fault, error = .database fault := by
  induction parts generalizing progress with
  | nil => cases h
  | cons part parts ih =>
    rw [outcomes] at h
    rcases List.mem_cons.mp h with hfirst | hrest
    · rw [outcome, hstore] at hfirst
      change _ = (handle.append _ _).1 at hfirst
      rcases Handle.append_cases_of_length progress.content
        (length_answered hprovider part progress.state) with hok | ⟨fault, hfault⟩
      · rw [hok] at hfirst
        cases hfirst
      · rw [hfault] at hfirst
        cases hfirst
        exact ⟨fault, rfl⟩
    · exact ih hrest

/-- A handle that can store records stores all parts. -/
theorem outcomes_of_canStore (hstore : indexer.store = handle.store)
    (hprovider : indexer.provider.HasDimensions handle.dimensions)
    {progress : Progress Database τ} (h : handle.CanStore progress.content) (parts : List Part) :
    indexer.outcomes progress parts = List.replicate parts.length (.ok ()) := by
  induction parts generalizing progress with
  | nil => rfl
  | cons part parts ih =>
    obtain ⟨after, happend, hafter⟩ :=
      Handle.append_of_canStore h (length_answered hprovider part progress.state)
    change handle.store.append _ _ = _ at happend
    have hfirst : indexer.outcome progress part = .ok () := by
      rw [outcome, hstore, happend]
    have hrest : handle.CanStore (indexer.indexPart progress part).content := by
      rw [indexer.indexPart_eq, hstore, happend]
      exact hafter
    rw [outcomes, hfirst, ih hrest]
    rfl

/-- The rows that a run leaves were there before, or have the code of a part. -/
theorem mem_rows_foldl (hstore : indexer.store = handle.store) {parts : List Part}
    {progress : Progress Database τ} {row : Row}
    (h : row ∈ (handle.chunkTable (parts.foldl indexer.indexPart progress).content).rows) :
    row ∈ (handle.chunkTable progress.content).rows ∨
      ∃ part ∈ parts, row.entry.code = part.code := by
  induction parts generalizing progress with
  | nil => exact Or.inl h
  | cons part parts ih =>
    rcases ih h with hrow | ⟨other, hother, hcode⟩
    · have hpart := indexer.indexPart_eq progress part
      rw [hstore] at hpart
      rw [hpart] at hrow
      rcases Handle.mem_rows_append hrow with hrow | hentry
      · exact Or.inl hrow
      · exact Or.inr ⟨part, List.mem_cons_self, congrArg Entry.code hentry⟩
    · exact Or.inr ⟨other, List.mem_cons_of_mem _ hother, hcode⟩

/-- A run over chunks stores all parts if the database refuses none. -/
theorem stored_indexChunks_iff (hstore : indexer.store = handle.store)
    (hprovider : indexer.provider.HasDimensions handle.dimensions) (chunks : List Chunk)
    (database : Database) (state : τ) :
    (indexer.indexChunks chunks database state).stored = windowCount indexer.splitter chunks ↔
      ∀ fault, .error (.database fault) ∉
        indexer.outcomes { content := database, state } (indexer.parts chunks) := by
  rw [← indexer.length_parts, indexChunks, stored_eq_length_iff]
  constructor
  · intro hnone fault
    exact hnone (.database fault)
  · intro hnone error herror
    obtain ⟨fault, rfl⟩ := fault_of_mem_outcomes hstore hprovider herror
    exact hnone fault herror

end Handles

end Indexer

end CodeSearch
